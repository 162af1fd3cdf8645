import MemeEvents.Proofs.Decode.Steps
import MemeEvents.Proofs.Event.Settlement

/-! Swaps of the Meteora pools, inferred from the movements correlated with them. -/

namespace MemeEvents.MeteoraPools

def pools : List Protocol := [.meteoraDlmm, .meteoraDamm, .meteoraDammV2]

def payment (signer : Pubkey) (first : TransferRecord) (rest : List TransferRecord) :
    TransferRecord :=
  ((first :: rest).find? (·.sourceOwner == some signer)).getD first

def receipt (records : List TransferRecord) (paid : TransferRecord) : Option TransferRecord :=
  records.find? (·.mint != paid.mint)

theorem pickRecord_payment (signer : Pubkey) (first : TransferRecord) (rest : List TransferRecord) :
    pickRecord (first :: rest) 0 (·.sourceOwner == some signer) = .ok (payment signer first rest) :=
  pickRecord_of_lt (Nat.succ_pos _) _

theorem payment_mem (signer : Pubkey) (first : TransferRecord) (rest : List TransferRecord) :
    payment signer first rest ∈ first :: rest := by
  unfold payment
  cases found : (first :: rest).find? (·.sourceOwner == some signer) with
  | none => exact List.mem_cons_self
  | some record => exact List.mem_of_find?_eq_some found

theorem receipt_mint {records : List TransferRecord} {paid received : TransferRecord}
    (found : receipt records paid = some received) : received.mint ≠ paid.mint := by
  simpa using List.find?_some found

theorem receipt_eq_none_iff (signer : Pubkey) (first : TransferRecord)
    (rest : List TransferRecord) :
    receipt (first :: rest) (payment signer first rest) = none ↔
      ∀ a ∈ first :: rest, ∀ b ∈ first :: rest, a.mint = b.mint := by
  have paid := payment_mem signer first rest
  simp only [receipt, List.find?_eq_none, bne_iff_ne, ne_eq, Decidable.not_not]
  constructor
  · intro same a inA b inB
    rw [same a inA, same b inB]
  · intro shared record member
    exact shared record member _ paid

/-- What the event of a pool swap reports: an undirected trade of the signer from `paid` to
`received` in the pool at the protocol's position, quoted in the paid mint when that is SOL or
USDC and in the received mint otherwise, its fee the third movement when there is one. -/
structure SwapReports (context : Context) (paid received : TransferRecord) (event : Event) :
    Prop where
  kind : event.kind = .trade
  input : event.input = some paid.tokenAmount
  output : event.output = some received.tokenAmount
  baseMint : event.baseMint = some (if isQuoteMint paid.mint then received.mint else paid.mint)
  quoteMint : event.quoteMint = some (if isQuoteMint paid.mint then paid.mint else received.mint)
  fees : event.fees =
    (context.records[2]?.map fun fee => (⟨.dex, fee.mint, fee.raw, fee.destinationOwner⟩ : Fee)).toList
  pool : event.pool = context.accounts[poolIndex context.protocol]?
  user : event.user = some context.signer

theorem SwapReports.stamp {context : Context} {paid received : TransferRecord} {event : Event}
    (reports : SwapReports context paid received event) (stamp : Stamp) :
    SwapReports context paid received { event with stamp } :=
  ⟨reports.kind, reports.input, reports.output, reports.baseMint, reports.quoteMint, reports.fees,
    reports.pool, reports.user⟩

theorem SwapReports.settles {context : Context} {paid received : TransferRecord} {event : Event}
    (reports : SwapReports context paid received event) (distinct : received.mint ≠ paid.mint)
    (view : View) (venue : Venue) :
    (∀ mint, view.trade? venue event ≠ .error (.sameMintTrade mint)) ∧
    ∀ trade, view.trade? venue event = .ok (some trade) →
      (trade.side = .buy ↔ isQuoteMint paid.mint = true) := by
  constructor
  · intro mint failed
    obtain ⟨-, input, output, hasInput, hasOutput, inputMint, outputMint⟩ :=
      (view.trade?_eq_sameMint_iff mint).mp failed
    rw [reports.input, Option.some.injEq] at hasInput
    rw [reports.output, Option.some.injEq] at hasOutput
    subst hasInput hasOutput
    exact distinct (outputMint.trans inputMint.symm)
  · intro trade settled
    obtain ⟨input, output, -, hasInput, -, -, built⟩ := view.trade?_eq_ok_some settled
    rw [reports.input, Option.some.injEq] at hasInput
    subst hasInput
    obtain ⟨inputSettled, -, side, -⟩ := view.tradeOfAmounts_eq_ok built
    rw [view.settle_of_settled rfl rfl, Except.ok.injEq] at inputSettled
    -- the side of an undirected trade: it sells when it pays in the base mint
    rw [side, ← inputSettled, TransferRecord.tokenAmount_mint, Event.side, reports.kind,
      reports.baseMint]
    cases isQuoteMint paid.mint with
    | true =>
      have other : (some received.mint == some paid.mint) = false := by simpa using distinct
      simp only [↓reduceIte, other, Bool.false_eq_true]
    | false => simp

/-! ### Choosing the route -/

theorem routes_of_pool {protocol : Protocol} (pool : protocol ∈ pools) :
    protocol.routes = routes := by
  simp only [pools, List.mem_cons, List.not_mem_nil, or_false] at pool
  rcases pool with rfl | rfl | rfl <;> rfl

variable {context : Context}

theorem decode_of_listed (pool : context.protocol ∈ pools)
    (listed : ∃ opening ∈ liquidity ++ setup, opening <+: context.located.data) :
    context.protocol.decode context = .ok none := by
  have table := routes_of_pool pool
  obtain ⟨opening, member, opens⟩ := listed
  cases first : (Route.silent "liquidity" liquidity).matchLength? context.located.data with
  | some skip =>
    exact Protocol.decode_of_silent (Protocol.select?_eq_of_first [] table nofun first)
  | none =>
    -- the liquidity route passes the data on, so it opens with a setup discriminator
    have inSetup : opening ∈ setup := by
      rcases List.mem_append.mp member with inLiquidity | inSetup
      · exact absurd opens ((Route.matchLength?_eq_none_iff _ _).mp first opening inLiquidity)
      · exact inSetup
    cases second : (Route.silent "setup" setup).matchLength? context.located.data with
    | some skip =>
      refine Protocol.decode_of_silent
        (Protocol.select?_eq_of_first [Route.silent "liquidity" liquidity] table ?_ second)
      simpa using first
    | none => exact absurd opens ((Route.matchLength?_eq_none_iff _ _).mp second opening inSetup)

theorem select?_of_unlisted (pool : context.protocol ∈ pools)
    (unlisted : ∀ opening ∈ liquidity ++ setup, ¬ opening <+: context.located.data) :
    context.protocol.select? context.located.data = some (⟨"swap", [[]], decodeSwap⟩, 0) := by
  refine Protocol.select?_eq_of_first
    [Route.silent "liquidity" liquidity, Route.silent "setup" setup] (routes_of_pool pool) ?_ rfl
  simp only [List.mem_cons, List.not_mem_nil, or_false]
  rintro earlier (rfl | rfl) <;> rw [Route.matchLength?_eq_none_iff] <;> intro opening member
  · exact unlisted opening (List.mem_append_left _ member)
  · exact unlisted opening (List.mem_append_right _ member)

/-! ### The swap -/

theorem decodeSwap_of_short (short : context.records.length < 2) :
    decodeSwap context = pure none := by
  unfold decodeSwap
  simp only [if_pos short]

section Swap

variable {first second : TransferRecord} {more : List TransferRecord}
  (grouped : context.records = first :: second :: more)
include grouped

theorem decodeSwap_of_one_mint
    (oneMint : receipt (first :: second :: more) (payment context.signer first (second :: more)) =
      none) :
    decodeSwap context = pure none := by
  unfold decodeSwap
  rw [grouped]
  dsimp only
  rw [if_neg (by simp), pickRecord_payment, Read.liftM_ok_bind]
  unfold receipt at oneMint
  rw [oneMint]

theorem decodeSwap_of_unlisted_pool {received : TransferRecord}
    (found : receipt (first :: second :: more) (payment context.signer first (second :: more)) =
      some received)
    (unlisted : context.accounts.length ≤ poolIndex context.protocol) :
    decodeSwap context =
      throw (.missingAccount (poolIndex context.protocol) context.accounts.length) := by
  unfold decodeSwap
  rw [grouped]
  dsimp only
  rw [if_neg (by simp), pickRecord_payment, Read.liftM_ok_bind]
  unfold receipt at found
  rw [found]
  dsimp only
  rw [Context.account_of_le unlisted, Read.liftM_error_bind]

theorem decodeSwap_of_receipt {received : TransferRecord}
    (found : receipt (first :: second :: more) (payment context.signer first (second :: more)) =
      some received)
    (listed : poolIndex context.protocol < context.accounts.length) :
    ∃ event, decodeSwap context = pure (some event) ∧
      SwapReports context (payment context.signer first (second :: more)) received event := by
  have fees : context.records[2]? = more.head? := by
    rw [grouped]
    cases more <;> rfl
  unfold receipt at found
  unfold decodeSwap
  rw [grouped]
  dsimp only
  rw [if_neg (by simp), pickRecord_payment, Read.liftM_ok_bind]
  rw [found]
  dsimp only
  rw [Context.account_of_lt listed, Read.liftM_ok_bind]
  refine ⟨_, rfl, ?_⟩
  -- the pair of mints is built by one `if`; both of its branches report the same way
  constructor
  all_goals try rfl
  · unfold payment
    split <;> rfl
  · unfold payment
    split <;> rfl
  · rw [fees]
    cases more <;> rfl
  · rw [List.getD_eq_getElem?_getD, List.getElem?_eq_getElem listed]
    rfl

end Swap

/-- How an instruction of a Meteora pool is decoded. One that opens with a liquidity or setup
discriminator reports nothing; any other is read as a swap of the movements `T` correlated with
it. With fewer than two of them, or all of one mint, there is nothing to report. Otherwise the
swap pays with the first movement the signer sent, else the first, and receives the first of
another mint; it fails for want of the pool account (the second for the second dynamic AMM, the
first otherwise), and with it the event reports the trade as `SwapReports` says. Its trade, from
any view and for any venue, never fails for sharing a mint, and buys exactly when it pays in SOL
or USDC. -/
theorem decode_infers_swap (context : Context) (pool : context.protocol ∈ pools) :
    ((∃ opening ∈ liquidity ++ setup, opening <+: context.located.data) →
      context.protocol.decode context = .ok none) ∧
    ((∀ opening ∈ liquidity ++ setup, ¬ opening <+: context.located.data) →
      (context.records.length < 2 → context.protocol.decode context = .ok none) ∧
      ∀ first second more, context.records = first :: second :: more →
        ((∀ a ∈ context.records, ∀ b ∈ context.records, a.mint = b.mint) →
          context.protocol.decode context = .ok none) ∧
        ((∃ a ∈ context.records, ∃ b ∈ context.records, a.mint ≠ b.mint) →
          ∃ received,
            receipt context.records (payment context.signer first (second :: more)) =
              some received ∧
            (context.accounts.length ≤ poolIndex context.protocol →
              context.protocol.decode context =
                .error (.missingAccount (poolIndex context.protocol) context.accounts.length)) ∧
            (poolIndex context.protocol < context.accounts.length →
              ∃ event, context.protocol.decode context = .ok (some event) ∧
                SwapReports context (payment context.signer first (second :: more)) received
                  event ∧
                ∀ (view : View) (venue : Venue),
                  (∀ mint, view.trade? venue event ≠ .error (.sameMintTrade mint)) ∧
                  ∀ trade, view.trade? venue event = .ok (some trade) →
                    (trade.side = .buy ↔
                      isQuoteMint (payment context.signer first (second :: more)).mint = true)))) := by
  refine ⟨decode_of_listed pool, fun unlisted => ?_⟩
  have selected := select?_of_unlisted pool unlisted
  refine ⟨fun short => Protocol.decode_of_pure_none selected (decodeSwap_of_short short), ?_⟩
  intro first second more grouped
  refine ⟨fun shared => ?_, fun mixed => ?_⟩
  · rw [grouped] at shared
    exact Protocol.decode_of_pure_none selected
      (decodeSwap_of_one_mint grouped ((receipt_eq_none_iff _ _ _).mpr shared))
  -- movements of two mints leave something to receive
  obtain ⟨received, found⟩ : ∃ received,
      receipt (first :: second :: more) (payment context.signer first (second :: more)) =
        some received := by
    apply Option.ne_none_iff_exists'.mp
    intro none
    obtain ⟨a, inA, b, inB, differ⟩ := mixed
    rw [grouped] at inA inB
    exact differ ((receipt_eq_none_iff _ _ _).mp none a inA b inB)
  refine ⟨received, grouped ▸ found, fun unlisted => ?_, fun listed => ?_⟩
  · exact Protocol.decode_of_throw selected (decodeSwap_of_unlisted_pool grouped found unlisted)
  · obtain ⟨event, ran, reports⟩ := decodeSwap_of_receipt grouped found listed
    refine ⟨_, Protocol.decode_of_pure selected ran, reports.stamp _,
      fun view venue => (reports.stamp _).settles (receipt_mint found) view venue⟩

/-- An add-liquidity instruction of the liquidity book reports nothing. -/
theorem decode_add_liquidity :
    Protocol.meteoraDlmm.decode
      ⟨.meteoraDlmm, ⟨⟨Programs.meteoraDlmm, [], [181, 157, 89, 67, 143, 182, 52, 72]⟩, ⟨0, none⟩⟩,
        default, {}⟩ = .ok none :=
  (decode_infers_swap
    ⟨.meteoraDlmm, ⟨⟨Programs.meteoraDlmm, [], [181, 157, 89, 67, 143, 182, 52, 72]⟩, ⟨0, none⟩⟩,
      default, {}⟩ (by decide)).1 ⟨_, by decide, List.prefix_refl _⟩

end MemeEvents.MeteoraPools
