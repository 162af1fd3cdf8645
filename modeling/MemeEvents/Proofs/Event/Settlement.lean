import MemeEvents.Event.Trade
import MemeEvents.Proofs.Decode.Outcomes

/-! Settling a trade from an event, described without the order of the steps that compute it. -/

namespace MemeEvents

def Fee.settled (fee : Fee) (decimals : Nat) : SettledFee :=
  ⟨fee.kind, fee.mint, fee.raw, (TokenInfo.of fee.mint fee.raw decimals).ui, decimals, fee.recipient⟩

def chargedIn (fees : List Fee) (mint : Pubkey) : Nat :=
  min (((fees.filter (·.mint == mint)).map (·.raw)).foldr (· + ·) 0) (Nat.pow 2 128 - 1)

theorem chargedIn_cons (fee : Fee) (fees : List Fee) (mint : Pubkey) :
    chargedIn (fee :: fees) mint =
      saturatingAdd128 (if fee.mint == mint then fee.raw else 0) (chargedIn fees mint) := by
  unfold chargedIn saturatingAdd128
  by_cases same : fee.mint == mint
  · simp only [List.filter_cons, same, ↓reduceIte, List.map_cons, List.foldr_cons]
    omega
  · simp only [List.filter_cons, same, Bool.false_eq_true, ↓reduceIte]
    omega

theorem Event.absent_or_present (event : Event) :
    (event.kind.isTrade = false ∨ event.input = none ∨ event.output = none) ∨
      ∃ input output, event.kind.isTrade = true ∧ event.input = some input ∧
        event.output = some output := by
  cases trading : event.kind.isTrade with
  | false => exact .inl (.inl rfl)
  | true =>
    cases hasInput : event.input with
    | none => exact .inl (.inr (.inl rfl))
    | some input =>
      cases hasOutput : event.output with
      | none => exact .inl (.inr (.inr rfl))
      | some output => exact .inr ⟨input, output, rfl, rfl, rfl⟩

namespace View

variable (view : View)

def settleFee (fee : Fee) : Except DecodeError SettledFee := fee.settled <$> view.mintDecimals fee.mint

theorem mintDecimals_eq_error {mint : Pubkey} {fault : DecodeError}
    (failed : view.mintDecimals mint = .error fault) : fault = .unknownDecimals mint := by
  unfold mintDecimals at failed
  split at failed
  · cases failed
  · split at failed
    · cases failed
    · split at failed
      · cases failed
      · cases failed
        rfl

theorem decimalsOr_none (mint : Pubkey) : view.decimalsOr mint none = view.mintDecimals mint := by
  unfold decimalsOr
  split <;> simp_all

theorem settleFee_eq_error {fee : Fee} {fault : DecodeError}
    (failed : view.settleFee fee = .error fault) : fault = .unknownDecimals fee.mint := by
  unfold settleFee at failed
  cases found : view.mintDecimals fee.mint with
  | error cause =>
    rw [found] at failed
    cases failed
    exact view.mintDecimals_eq_error found
  | ok decimals =>
    rw [found] at failed
    cases failed

theorem mapM_settleFee_eq_error {fees : List Fee} {fault : DecodeError}
    (failed : fees.mapM view.settleFee = .error fault) :
    ∃ fee ∈ fees, fault = .unknownDecimals fee.mint := by
  induction fees with
  | nil => cases failed
  | cons fee fees induction =>
    rw [List.mapM_cons] at failed
    rcases Except.bind_eq_error failed with here | ⟨settled, -, later⟩
    · exact ⟨fee, List.mem_cons_self, view.settleFee_eq_error here⟩
    · rcases Except.bind_eq_error later with rest | ⟨_, -, done⟩
      · obtain ⟨other, member, named⟩ := induction rest
        exact ⟨other, List.mem_cons_of_mem fee member, named⟩
      · cases done

theorem settleFees_eq (quote : Pubkey) (fees : List Fee) :
    view.settleFees quote fees =
      (fun settled => (settled, chargedIn fees quote)) <$>
        (fees.filter (0 < ·.raw)).mapM view.settleFee := by
  induction fees with
  | nil => rfl
  | cons fee fees induction =>
    rw [settleFees.eq_2]
    by_cases zero : fee.raw = 0
    · have skipped : (fee :: fees).filter (0 < ·.raw) = fees.filter (0 < ·.raw) := by
        simp [zero]
      have uncharged : chargedIn (fee :: fees) quote = chargedIn fees quote := by
        rw [chargedIn_cons, zero, saturatingAdd128]
        simp only [ite_self, Nat.zero_add]
        unfold chargedIn
        omega
      rw [if_pos zero, induction, skipped, uncharged]
    · have kept : (fee :: fees).filter (0 < ·.raw) = fee :: fees.filter (0 < ·.raw) := by
        simp [Nat.pos_of_ne_zero zero]
      rw [if_neg zero, decimalsOr_none, kept, List.mapM_cons, induction, chargedIn_cons]
      rw [show view.settleFee fee = fee.settled <$> view.mintDecimals fee.mint from rfl]
      cases view.mintDecimals fee.mint with
      | error fault => rfl
      | ok decimals =>
        cases (fees.filter (0 < ·.raw)).mapM view.settleFee with
        | error fault => rfl
        | ok settled => rfl

theorem settle_of_settled {amount : TokenAmount} {decimals : Nat} {ui : Binary64}
    (hasDecimals : amount.decimals = some decimals) (hasUi : amount.ui = some ui) :
    view.settle amount = .ok ⟨amount.mint, amount.raw, ui, decimals⟩ := by
  unfold settle
  rw [hasDecimals, hasUi]

theorem settle_of_unsettled {amount : TokenAmount}
    (unsettled : amount.decimals = none ∨ amount.ui = none) :
    view.settle amount =
      ((view.mintDecimals amount.mint).toOption.or amount.decimals).elim
        (.error (.unknownDecimals amount.mint))
        fun decimals => .ok (TokenInfo.of amount.mint amount.raw decimals) := by
  unfold settle
  split
  · rename_i hasDecimals hasUi
    rcases unsettled with missing | missing
    · rw [missing] at hasDecimals
      cases hasDecimals
    · rw [missing] at hasUi
      cases hasUi
  · unfold decimalsOr
    cases found : view.mintDecimals amount.mint with
    | ok decimals => rfl
    | error fault =>
      rw [view.mintDecimals_eq_error found]
      cases amount.decimals <;> rfl

theorem settle_eq_error {amount : TokenAmount} {fault : DecodeError}
    (failed : view.settle amount = .error fault) : fault = .unknownDecimals amount.mint := by
  by_cases unsettled : amount.decimals = none ∨ amount.ui = none
  · rw [view.settle_of_unsettled unsettled] at failed
    cases found : (view.mintDecimals amount.mint).toOption.or amount.decimals with
    | none =>
      rw [found] at failed
      cases failed
      rfl
    | some decimals =>
      rw [found] at failed
      cases failed
  · obtain ⟨decimals, hasDecimals⟩ := Option.ne_none_iff_exists'.mp fun none => unsettled (.inl none)
    obtain ⟨ui, hasUi⟩ := Option.ne_none_iff_exists'.mp fun none => unsettled (.inr none)
    rw [view.settle_of_settled hasDecimals hasUi] at failed
    cases failed

/-- The mint a trade is quoted in: the event's own quote mint, else the mint of whichever amount
is not the base. -/
def quoteOf (event : Event) (inputMint outputMint : Pubkey) : Pubkey :=
  event.quoteMint.getD (if event.baseMint = some inputMint then outputMint else inputMint)

def quoteFee (fees : List Fee) (quote : Pubkey) : Except DecodeError (Option TokenInfo) :=
  if 0 < chargedIn fees quote then
    (fun decimals => some (TokenInfo.of quote (chargedIn fees quote) decimals)) <$>
      view.mintDecimals quote
  else pure none

theorem quoteFee_eq_error {fees : List Fee} {quote : Pubkey} {fault : DecodeError}
    (failed : view.quoteFee fees quote = .error fault) : fault = .unknownDecimals quote := by
  unfold quoteFee at failed
  split at failed
  · cases found : view.mintDecimals quote with
    | error cause =>
      rw [found] at failed
      cases failed
      exact view.mintDecimals_eq_error found
    | ok decimals =>
      rw [found] at failed
      cases failed
  · cases failed

theorem quoteFee_bind {β : Type} (fees : List Fee) (quote : Pubkey)
    (finish : Option TokenInfo → β) :
    (view.quoteFee fees quote >>= fun fee => pure (finish fee)) =
      if 0 < chargedIn fees quote then
        view.mintDecimals quote >>= fun decimals =>
          pure (finish (some (TokenInfo.of quote (chargedIn fees quote) decimals)))
      else pure (finish none) := by
  unfold quoteFee
  split
  · rw [bind_map_left]
  · rw [pure_bind]

def tradeOfAmounts (venue : Venue) (event : Event) (input output : TokenAmount) :
    Except DecodeError Trade := do
  let inputInfo ← view.settle input
  let outputInfo ← view.settle output
  let quote := quoteOf event inputInfo.mint outputInfo.mint
  let fees ← (event.fees.filter (0 < ·.raw)).mapM view.settleFee
  let fee ← view.quoteFee event.fees quote
  pure {
    stamp := event.stamp, side := event.side inputInfo.mint, protocol := event.protocol,
    pools := event.pools, input := inputInfo, output := outputInfo, fee, fees,
    user := event.user.getD view.signer, program := venue.program.getD event.program,
    amm := venue.amm.getD event.protocol.name, route := venue.route.getD event.protocol.name }

theorem tradeOfAmounts_eq_error {venue : Venue} {event : Event} {input output : TokenAmount}
    {fault : DecodeError} (failed : view.tradeOfAmounts venue event input output = .error fault) :
    ∃ mint, fault = .unknownDecimals mint := by
  unfold tradeOfAmounts at failed
  rcases Except.bind_eq_error failed with inputFailed | ⟨inputInfo, -, failed⟩
  · exact ⟨_, view.settle_eq_error inputFailed⟩
  rcases Except.bind_eq_error failed with outputFailed | ⟨outputInfo, -, failed⟩
  · exact ⟨_, view.settle_eq_error outputFailed⟩
  rcases Except.bind_eq_error failed with feesFailed | ⟨fees, -, failed⟩
  · obtain ⟨fee, -, named⟩ := view.mapM_settleFee_eq_error feesFailed
    exact ⟨_, named⟩
  rcases Except.bind_eq_error failed with feeFailed | ⟨fee, -, failed⟩
  · exact ⟨_, view.quoteFee_eq_error feeFailed⟩
  · cases failed

theorem trade?_of_amounts {venue : Venue} {event : Event} {input output : TokenAmount}
    (trading : event.kind.isTrade = true) (hasInput : event.input = some input)
    (hasOutput : event.output = some output) :
    view.trade? venue event =
      if input.mint = output.mint then .error (.sameMintTrade input.mint)
      else some <$> view.tradeOfAmounts venue event input output := by
  unfold trade?
  rw [trading, hasInput, hasOutput]
  simp only [Bool.not_true, Bool.false_eq_true, ↓reduceIte]
  by_cases same : input.mint = output.mint
  · simp only [same, beq_self_eq_true, ↓reduceIte]
    rfl
  · have differ : (input.mint == output.mint) = false := beq_false_of_ne same
    simp only [differ, Bool.false_eq_true, ↓reduceIte, same]
    unfold tradeOfAmounts
    simp only [beq_iff_eq, settleFees_eq, decimalsOr_none, map_bind, bind_map_left, pure_bind,
      map_pure, gt_iff_lt, quoteOf, quoteFee_bind,
      apply_ite (some <$> · : Except DecodeError Trade → Except DecodeError (Option Trade))]

private theorem some_map_eq_ok_none {α : Type} (result : Except DecodeError α) :
    (some <$> result) ≠ .ok none := by
  cases result <;> nofun

theorem trade?_of_absent {venue : Venue} {event : Event}
    (absent : event.kind.isTrade = false ∨ event.input = none ∨ event.output = none) :
    view.trade? venue event = .ok none := by
  unfold trade?
  rcases absent with quiet | missing | missing
  · rw [quiet]
    rfl
  · rw [missing]
    cases event.kind.isTrade <;> rfl
  · rw [missing]
    cases event.kind.isTrade <;> cases event.input <;> rfl

theorem trade?_eq_none_iff {venue : Venue} {event : Event} :
    view.trade? venue event = .ok none ↔
      event.kind.isTrade = false ∨ event.input = none ∨ event.output = none := by
  refine ⟨fun settled => ?_, view.trade?_of_absent⟩
  rcases event.absent_or_present with absent | ⟨input, output, trading, hasInput, hasOutput⟩
  · exact absent
  · rw [view.trade?_of_amounts trading hasInput hasOutput] at settled
    split at settled
    · cases settled
    · exact absurd settled (some_map_eq_ok_none _)

theorem trade?_eq_sameMint_iff {venue : Venue} {event : Event} (mint : Pubkey) :
    view.trade? venue event = .error (.sameMintTrade mint) ↔
      event.kind.isTrade = true ∧ ∃ input output, event.input = some input ∧
        event.output = some output ∧ input.mint = mint ∧ output.mint = mint := by
  constructor
  · intro failed
    rcases event.absent_or_present with absent | ⟨input, output, trading, hasInput, hasOutput⟩
    · rw [view.trade?_of_absent absent] at failed
      cases failed
    · rw [view.trade?_of_amounts trading hasInput hasOutput] at failed
      split at failed
      · rename_i same
        cases failed
        exact ⟨trading, input, output, hasInput, hasOutput, rfl, same.symm⟩
      · obtain ⟨_, named⟩ := view.tradeOfAmounts_eq_error (Except.map_eq_error_iff.mp failed)
        cases named
  · rintro ⟨trading, input, output, hasInput, hasOutput, inputMint, outputMint⟩
    rw [view.trade?_of_amounts trading hasInput hasOutput, if_pos (inputMint.trans outputMint.symm),
      inputMint]

theorem trade?_eq_error {venue : Venue} {event : Event} {fault : DecodeError}
    (failed : view.trade? venue event = .error fault) :
    ∃ mint, fault = .sameMintTrade mint ∨ fault = .unknownDecimals mint := by
  rcases event.absent_or_present with absent | ⟨input, output, trading, hasInput, hasOutput⟩
  · rw [view.trade?_of_absent absent] at failed
    cases failed
  · rw [view.trade?_of_amounts trading hasInput hasOutput] at failed
    split at failed
    · cases failed
      exact ⟨input.mint, .inl rfl⟩
    · obtain ⟨mint, named⟩ := view.tradeOfAmounts_eq_error (Except.map_eq_error_iff.mp failed)
      exact ⟨mint, .inr named⟩

theorem tradeOfAmounts_eq_ok {venue : Venue} {event : Event} {input output : TokenAmount}
    {trade : Trade} (settled : view.tradeOfAmounts venue event input output = .ok trade) :
    view.settle input = .ok trade.input ∧ view.settle output = .ok trade.output ∧
      trade.side = event.side trade.input.mint ∧ trade.pools = event.pools ∧
      trade.user = event.user.getD view.signer := by
  unfold tradeOfAmounts at settled
  obtain ⟨inputInfo, inputSettled, settled⟩ := Except.bind_eq_ok settled
  obtain ⟨outputInfo, outputSettled, settled⟩ := Except.bind_eq_ok settled
  obtain ⟨fees, -, settled⟩ := Except.bind_eq_ok settled
  obtain ⟨fee, -, settled⟩ := Except.bind_eq_ok settled
  cases settled
  exact ⟨inputSettled, outputSettled, rfl, rfl, rfl⟩

theorem tradeOfAmounts_of_free {venue : Venue} {event : Event} {input output : TokenAmount}
    {inputInfo outputInfo : TokenInfo} (free : event.fees = [])
    (inputSettled : view.settle input = .ok inputInfo)
    (outputSettled : view.settle output = .ok outputInfo) :
    ∃ trade, view.tradeOfAmounts venue event input output = .ok trade := by
  have uncharged : ∀ quote, chargedIn [] quote = 0 := fun _ => rfl
  unfold tradeOfAmounts quoteFee
  rw [inputSettled, Except.ok_bind, outputSettled, Except.ok_bind, free]
  dsimp only
  rw [uncharged, if_neg (Nat.lt_irrefl 0)]
  exact ⟨_, rfl⟩

theorem tradeOfAmounts_of_unsettled {venue : Venue} {event : Event} {input output : TokenAmount}
    {fault : DecodeError} (failed : view.settle input = .error fault) :
    view.tradeOfAmounts venue event input output = .error fault := by
  unfold tradeOfAmounts
  rw [failed, Except.error_bind]

theorem trade?_eq_ok_some {venue : Venue} {event : Event} {trade : Trade}
    (settled : view.trade? venue event = .ok (some trade)) :
    ∃ input output, event.kind.isTrade = true ∧ event.input = some input ∧
      event.output = some output ∧ input.mint ≠ output.mint ∧
      view.tradeOfAmounts venue event input output = .ok trade := by
  rcases event.absent_or_present with absent | ⟨input, output, trading, hasInput, hasOutput⟩
  · rw [view.trade?_of_absent absent] at settled
    cases settled
  · rw [view.trade?_of_amounts trading hasInput hasOutput] at settled
    split at settled
    · cases settled
    · rename_i distinct
      refine ⟨input, output, trading, hasInput, hasOutput, distinct, ?_⟩
      cases built : view.tradeOfAmounts venue event input output with
      | error fault =>
        rw [built] at settled
        cases settled
      | ok found =>
        rw [built] at settled
        cases settled
        rfl

end View

theorem Event.side_eq_sell {event : Event} {inputMint : Pubkey} (trading : event.kind.isTrade = true) :
    event.side inputMint = .sell ↔
      event.kind = .sell ∨ event.kind = .trade ∧ event.baseMint = some inputMint := by
  unfold Event.side
  cases kind : event.kind <;> rw [kind] at trading <;> simp_all [EventKind.isTrade]

/-- How an event settles to a trade. It gives none exactly when it is not a trade or lacks an
amount, and fails with `sameMintTrade` exactly when its two amounts share that mint; otherwise it
gives the trade `View.tradeOfAmounts` describes, failing only for a mint whose decimals are
unknown. An amount is kept when it has both decimals and a UI value, and otherwise takes its mint's
decimals, else its own; the trade sells when its event says so, or when an undirected trade pays
in the base mint. -/
theorem View.trade?_describes (view : View) (venue : Venue) (event : Event) :
    (view.trade? venue event = .ok none ↔
      event.kind.isTrade = false ∨ event.input = none ∨ event.output = none) ∧
    (∀ mint, view.trade? venue event = .error (.sameMintTrade mint) ↔
      event.kind.isTrade = true ∧ ∃ input output, event.input = some input ∧
        event.output = some output ∧ input.mint = mint ∧ output.mint = mint) ∧
    (∀ input output, event.kind.isTrade = true → event.input = some input →
      event.output = some output → input.mint ≠ output.mint →
      view.trade? venue event = some <$> view.tradeOfAmounts venue event input output) ∧
    (∀ fault, view.trade? venue event = .error fault →
      ∃ mint, fault = .sameMintTrade mint ∨ fault = .unknownDecimals mint) ∧
    (∀ (amount : TokenAmount) decimals ui, amount.decimals = some decimals → amount.ui = some ui →
      view.settle amount = .ok ⟨amount.mint, amount.raw, ui, decimals⟩) ∧
    (∀ amount : TokenAmount, amount.decimals = none ∨ amount.ui = none →
      view.settle amount =
        ((view.mintDecimals amount.mint).toOption.or amount.decimals).elim
          (.error (.unknownDecimals amount.mint))
          fun decimals => .ok (TokenInfo.of amount.mint amount.raw decimals)) ∧
    (∀ inputMint, event.kind.isTrade = true →
      (event.side inputMint = .sell ↔
        event.kind = .sell ∨ event.kind = .trade ∧ event.baseMint = some inputMint)) := by
  refine ⟨view.trade?_eq_none_iff, view.trade?_eq_sameMint_iff, ?_, fun _ => view.trade?_eq_error,
    fun _ _ _ => view.settle_of_settled, fun _ => view.settle_of_unsettled,
    fun _ => Event.side_eq_sell⟩
  intro input output trading hasInput hasOutput distinct
  rw [view.trade?_of_amounts trading hasInput hasOutput, if_neg distinct]

/-- A buy of two distinct mints settles as `View.tradeOfAmounts` says, and a sale of one mint for
itself fails naming it. -/
theorem trade?_distinct_and_same_mints :
    (default : View).trade? {}
        { kind := .buy, input := some ⟨Pubkey.zero, 5, none, none⟩,
          output := some ⟨⟨List.replicate 32 1, rfl⟩, 7, none, none⟩ } =
      some <$> (default : View).tradeOfAmounts {}
        { kind := .buy, input := some ⟨Pubkey.zero, 5, none, none⟩,
          output := some ⟨⟨List.replicate 32 1, rfl⟩, 7, none, none⟩ }
        ⟨Pubkey.zero, 5, none, none⟩ ⟨⟨List.replicate 32 1, rfl⟩, 7, none, none⟩ ∧
    (default : View).trade? {}
        { kind := .sell, input := some ⟨Pubkey.zero, 5, none, none⟩,
          output := some ⟨Pubkey.zero, 7, none, none⟩ } =
      .error (.sameMintTrade Pubkey.zero) :=
  ⟨(View.trade?_describes default {} _).2.2.1 _ _ rfl rfl rfl (by decide),
    ((View.trade?_describes default {} _).2.1 _).mpr ⟨rfl, _, _, rfl, rfl, rfl, rfl⟩⟩

end MemeEvents
