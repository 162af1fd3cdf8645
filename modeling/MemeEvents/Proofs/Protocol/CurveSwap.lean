import MemeEvents.Proofs.Decode.Steps

/-!
Swaps on Meteora's dynamic bonding curves. A swap reads six of its accounts and needs two correlated
movements.
-/

namespace MemeEvents.MeteoraDbc

def paidLeg (context : Context) (first : TransferRecord) (rest : List TransferRecord) :
    TransferRecord :=
  ((first :: rest).find? (·.source == context.accounts.getD 3 default)).getD first

def receivedLeg (context : Context) (first second : TransferRecord) (more : List TransferRecord) :
    TransferRecord :=
  ((first :: second :: more).find? (·.destination == context.accounts.getD 4 default)).getD second

variable {context : Context}

/-! ### Which side a swap takes -/

theorem sell_iff (paysBase : Bool) :
    (if paysBase then EventKind.sell else .buy) = .sell ↔ paysBase = true := by
  cases paysBase <;> decide

theorem inputIsBase_of_paying {inputAccount outputAccount baseMint : Pubkey}
    {info : TokenAccountInfo} (known : context.view.tokenAccountInfo inputAccount = some info) :
    inputIsBase context inputAccount outputAccount baseMint = (info.mint == baseMint) := by
  unfold inputIsBase
  rw [known]

theorem inputIsBase_of_receiving {inputAccount outputAccount baseMint : Pubkey}
    {info : TokenAccountInfo} (unknown : context.view.tokenAccountInfo inputAccount = none)
    (known : context.view.tokenAccountInfo outputAccount = some info) :
    inputIsBase context inputAccount outputAccount baseMint = (info.mint != baseMint) := by
  unfold inputIsBase
  rw [unknown, known]

theorem inputIsBase_of_associated {inputAccount outputAccount baseMint : Pubkey}
    (unknownInput : context.view.tokenAccountInfo inputAccount = none)
    (unknownOutput : context.view.tokenAccountInfo outputAccount = none) :
    inputIsBase context inputAccount outputAccount baseMint =
      (Address.associatedTokenAccount context.signer baseMint Programs.token == inputAccount ||
        Address.associatedTokenAccount context.signer baseMint Programs.token2022 ==
          inputAccount) := by
  unfold inputIsBase
  rw [unknownInput, unknownOutput]
  simp only [List.any_cons, List.any_nil, Bool.or_false]

/-- How a curve swap takes its side: it sells exactly when it pays in the base mint (account 7),
as the token balance of the paying account (account 3) tells, else that of the receiving account
(account 4), else whether the paying account is the signer's associated account for the base
mint under either token program. -/
structure SideReports (context : Context) (kind : EventKind) : Prop where
  buyOrSell : kind = .sell ∨ kind = .buy
  byPaying : ∀ info, context.view.tokenAccountInfo (context.accounts.getD 3 default) = some info →
    (kind = .sell ↔ info.mint = context.accounts.getD 7 default)
  byReceiving : context.view.tokenAccountInfo (context.accounts.getD 3 default) = none →
    ∀ info, context.view.tokenAccountInfo (context.accounts.getD 4 default) = some info →
      (kind = .sell ↔ info.mint ≠ context.accounts.getD 7 default)
  byAssociated : context.view.tokenAccountInfo (context.accounts.getD 3 default) = none →
    context.view.tokenAccountInfo (context.accounts.getD 4 default) = none →
    (kind = .sell ↔
      Address.associatedTokenAccount context.signer (context.accounts.getD 7 default)
          Programs.token = context.accounts.getD 3 default ∨
        Address.associatedTokenAccount context.signer (context.accounts.getD 7 default)
          Programs.token2022 = context.accounts.getD 3 default)

theorem sideReports (context : Context) :
    SideReports context
      (if inputIsBase context (context.accounts.getD 3 default) (context.accounts.getD 4 default)
        (context.accounts.getD 7 default) then .sell else .buy) where
  buyOrSell := by
    split
    · exact Or.inl rfl
    · exact Or.inr rfl
  byPaying info known := by
    rw [sell_iff, inputIsBase_of_paying known, beq_iff_eq]
  byReceiving unknown info known := by
    rw [sell_iff, inputIsBase_of_receiving unknown known, bne_iff_ne]
  byAssociated unknownInput unknownOutput := by
    rw [sell_iff, inputIsBase_of_associated unknownInput unknownOutput, Bool.or_eq_true,
      beq_iff_eq, beq_iff_eq]

structure SwapReports (context : Context) (paid received : TransferRecord) (event : Event) :
    Prop where
  input : event.input = some paid.tokenAmount
  output : event.output = some received.tokenAmount
  baseMint : event.baseMint = some (context.accounts.getD 7 default)
  quoteMint : event.quoteMint = some (context.accounts.getD 8 default)
  user : event.user = some (context.accounts.getD 9 default)
  pool : event.pool = some (context.accounts.getD 2 default)
  bondingCurve : event.bondingCurve = some (context.accounts.getD 2 default)
  side : SideReports context event.kind

theorem SwapReports.stamp {paid received : TransferRecord} {event : Event}
    (reports : SwapReports context paid received event) (stamp : Stamp) :
    SwapReports context paid received { event with stamp } :=
  ⟨reports.input, reports.output, reports.baseMint, reports.quoteMint, reports.user,
    reports.pool, reports.bondingCurve, reports.side⟩

/-! ### The swap decoder -/

theorem pick_legs {first second : TransferRecord} {more : List TransferRecord}
    (grouped : context.records = first :: second :: more) :
    pickRecord context.records 0 (·.source == context.accounts.getD 3 default) =
        .ok (paidLeg context first (second :: more)) ∧
      pickRecord context.records 1 (·.destination == context.accounts.getD 4 default) =
        .ok (receivedLeg context first second more) := by
  rw [grouped]
  exact ⟨pickRecord_of_lt (by simp) _, pickRecord_of_lt (by simp) _⟩

section Swap

variable (enough : 10 ≤ context.accounts.length)
include enough

theorem decodeSwap_of_short (short : context.records.length < 2) :
    decodeSwap context = throw (.missingTransfer 2 context.records.length) := by
  unfold decodeSwap
  simp (disch := omega) only [Context.account_of_lt, Read.liftM_ok_bind,
    Context.requireRecords_of_lt short, Read.liftM_error_bind]

theorem decodeSwap_of_grouped {first second : TransferRecord} {more : List TransferRecord}
    (grouped : context.records = first :: second :: more) :
    ∃ event, decodeSwap context =
        (if (paidLeg context first (second :: more)).mint ==
            (receivedLeg context first second more).mint then
          throw (.sameMintTrade (paidLeg context first (second :: more)).mint)
        else pure (some event)) ∧
      SwapReports context (paidLeg context first (second :: more))
        (receivedLeg context first second more) event := by
  have long : 2 ≤ context.records.length := by
    rw [grouped]
    exact Nat.le_add_left 2 more.length
  obtain ⟨paid, received⟩ := pick_legs grouped
  unfold decodeSwap
  simp (disch := omega) only [Context.account_of_lt, Read.liftM_ok_bind,
    Context.requireRecords_of_le long, paid, received]
  refine ⟨?event, ?ran, ?reports⟩
  case ran => split <;> rfl
  case reports => exact ⟨rfl, rfl, rfl, rfl, rfl, rfl, rfl, sideReports context⟩

end Swap

theorem select?_of_swap (opened : swap <+: context.located.data ∨ swap2 <+: context.located.data) :
    Protocol.meteoraDbc.select? context.located.data =
      some (⟨"swap", [swap, swap2], decodeSwap⟩, 8) := by
  have sized : ∀ opening ∈ [swap, swap2], opening.length = 8 := by decide
  apply Protocol.select?_eq_of_first [] rfl nofun
  rcases opened with opens | opens
  · exact Route.matchLength?_of_prefix sized List.mem_cons_self opens
  · exact Route.matchLength?_of_prefix sized (List.mem_cons_of_mem _ List.mem_cons_self) opens

/-- How a swap on a dynamic bonding curve is decoded, from ten accounts and the movements `T`
correlated with it. With fewer than two of them it fails for want of two. Otherwise it pays with
the first movement out of account 3, else the first of `T`, and receives the first movement into
account 4, else the second of `T`; it fails for sharing a mint exactly when those legs have one
mint, and otherwise reports them as `SwapReports` says, on the side `SideReports` gives. -/
theorem decode_swap_legs (context : Context)
    (opened : swap <+: context.located.data ∨ swap2 <+: context.located.data)
    (enough : 10 ≤ context.accounts.length) :
    (context.records.length < 2 →
      Protocol.meteoraDbc.decode context = .error (.missingTransfer 2 context.records.length)) ∧
    ∀ first second more, context.records = first :: second :: more →
      (∀ mint, Protocol.meteoraDbc.decode context = .error (.sameMintTrade mint) ↔
        (paidLeg context first (second :: more)).mint = mint ∧
          (receivedLeg context first second more).mint = mint) ∧
      ((paidLeg context first (second :: more)).mint ≠
          (receivedLeg context first second more).mint →
        ∃ event, Protocol.meteoraDbc.decode context = .ok (some event) ∧
          SwapReports context (paidLeg context first (second :: more))
            (receivedLeg context first second more) event) := by
  have selected := select?_of_swap opened
  refine ⟨fun short => Protocol.decode_of_throw selected (decodeSwap_of_short enough short), ?_⟩
  intro first second more grouped
  obtain ⟨event, ran, reports⟩ := decodeSwap_of_grouped enough grouped
  have sameFails : (paidLeg context first (second :: more)).mint =
      (receivedLeg context first second more).mint →
      Protocol.meteoraDbc.decode context =
        .error (.sameMintTrade (paidLeg context first (second :: more)).mint) := by
    intro same
    exact Protocol.decode_of_throw selected (ran.trans (if_pos (beq_iff_eq.mpr same)))
  have distinctReports : (paidLeg context first (second :: more)).mint ≠
      (receivedLeg context first second more).mint →
      ∃ event, Protocol.meteoraDbc.decode context = .ok (some event) ∧
        SwapReports context (paidLeg context first (second :: more))
          (receivedLeg context first second more) event := by
    intro distinct
    exact ⟨_, Protocol.decode_of_pure selected (ran.trans (if_neg (mt beq_iff_eq.mp distinct))),
      reports.stamp _⟩
  refine ⟨fun mint => ⟨fun failed => ?_, ?_⟩, distinctReports⟩
  · -- a failure for sharing a mint names the paid mint, and only legs of one mint fail
    by_cases same : (paidLeg context first (second :: more)).mint =
        (receivedLeg context first second more).mint
    · rw [sameFails same] at failed
      cases failed
      exact ⟨rfl, same.symm⟩
    · obtain ⟨_, succeeded, -⟩ := distinctReports same
      rw [succeeded] at failed
      cases failed
  · rintro ⟨paidMint, receivedMint⟩
    rw [sameFails (paidMint.trans receivedMint.symm), paidMint]

/-- A swap with three movements pays with the one out of its paying account and receives the
one into its receiving account, though neither comes first; the same swap with no movement
fails for want of two. -/
theorem decode_swap_with_and_without_movements :
    let key (byte : UInt8) : Pubkey := ⟨List.replicate 32 byte, rfl⟩
    let record (mint source destination : Pubkey) (raw : Nat) : TransferRecord :=
      ⟨.transfer, Programs.token, mint, source, destination, none, none, none, raw, 6, default,
        ⟨0, some 0⟩⟩
    let earlier := record (key 8) (key 20) (key 21) 7
    let paid := record (key 8) (key 3) (key 22) 100
    let received := record (key 7) (key 23) (key 4) 500
    let located : Located :=
      ⟨⟨Programs.meteoraDbc, [key 0, key 1, key 2, key 3, key 4, key 5, key 6, key 7, key 8, key 9],
        swap⟩, ⟨0, none⟩⟩
    let view : View := ⟨{ postTokenBalances := [⟨0, key 3, key 8, none, 0, 6⟩] }, {}⟩
    let grouped : TransferMap := ⟨[(⟨Programs.meteoraDbc, ⟨0, none⟩⟩, [earlier, paid, received])]⟩
    let context : Context := ⟨.meteoraDbc, located, view, grouped⟩
    (paidLeg context earlier [paid, received] = paid ∧
      receivedLeg context earlier paid [received] = received ∧
      ∃ event, Protocol.meteoraDbc.decode context = .ok (some event) ∧
        SwapReports context paid received event) ∧
    Protocol.meteoraDbc.decode { context with transfers := {} } =
      .error (.missingTransfer 2 0) := by
  intro key record earlier paid received located view grouped context
  have listed : 10 ≤ context.accounts.length := by decide
  have legs := decode_swap_legs context (Or.inl (List.prefix_refl _)) listed
  have paidFound : paidLeg context earlier [paid, received] = paid := by decide +kernel
  have receivedFound : receivedLeg context earlier paid [received] = received := by
    decide +kernel
  have distinct := legs.2 earlier paid [received] (by decide +kernel)
  obtain ⟨event, decoded, reports⟩ := distinct.2 (by rw [paidFound, receivedFound]; decide)
  rw [paidFound, receivedFound] at reports
  refine ⟨⟨paidFound, receivedFound, event, decoded, reports⟩, ?_⟩
  exact (decode_swap_legs { context with transfers := {} } (Or.inl (List.prefix_refl _))
    listed).1 (by decide)

end MemeEvents.MeteoraDbc
