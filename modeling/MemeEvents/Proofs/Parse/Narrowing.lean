import Mathlib.Data.List.Basic
import MemeEvents.Proofs.Parse.Dispatch

/-!
Narrowing a configuration: a parse under a narrower configuration keeps exactly the wider parse's
events that it admits, in the same order, and the trades settled from them.
-/

namespace MemeEvents

namespace Config

def admitsEvent (config : Config) (event : Event) : Bool :=
  config.admitsProgram event.program && config.admitsKind event.kind

/-- `narrow` admits no program and no event kind that `wide` does not, settles trades only if
`wide` does, and correlates the same kinds of movement. -/
structure Narrows (narrow wide : Config) : Prop where
  extraKinds : narrow.extraKinds = wide.extraKinds
  programs : ∀ program, narrow.admitsProgram program = true → wide.admitsProgram program = true
  kinds : ∀ kind, narrow.admitsKind kind = true → wide.admitsKind kind = true
  trades : narrow.emitTrades = true → wide.emitTrades = true

theorem Narrows.refl (config : Config) : config.Narrows config :=
  ⟨rfl, fun _ admitted => admitted, fun _ admitted => admitted, id⟩

theorem Narrows.trans {narrower narrow wide : Config} (first : narrower.Narrows narrow)
    (second : narrow.Narrows wide) : narrower.Narrows wide :=
  ⟨first.extraKinds.trans second.extraKinds,
    fun program admitted => second.programs program (first.programs program admitted),
    fun kind admitted => second.kinds kind (first.kinds kind admitted),
    fun emitting => second.trades (first.trades emitting)⟩

/-! Each way of narrowing a configuration: an event filter, an allow list or an ignore list
where there was none, or no trades. -/

theorem narrows_withFilter {config : Config} (unfiltered : config.filter = none)
    (filter : KindFilter) : ({ config with filter := some filter } : Config).Narrows config := by
  refine ⟨rfl, fun _ admitted => admitted, fun kind _ => ?_, id⟩
  simp [admitsKind, unfiltered]

theorem narrows_withAllowList {config : Config} (unrestricted : config.programs = none)
    (allowed : List Pubkey) : ({ config with programs := some allowed } : Config).Narrows config := by
  refine ⟨rfl, fun program admitted => ?_, fun _ admitted => admitted, id⟩
  -- the ignore list stays, and without an allow list every program it spares is admitted
  unfold admitsProgram at admitted ⊢
  rw [unrestricted]
  split at admitted
  · cases admitted
  · rename_i spared
    rw [if_neg spared]

theorem narrows_withIgnoreList {config : Config} (unignored : config.ignoredPrograms = none)
    (ignored : List Pubkey) :
    ({ config with ignoredPrograms := some ignored } : Config).Narrows config := by
  refine ⟨rfl, fun program admitted => ?_, fun _ admitted => admitted, id⟩
  -- a program the new list spares is judged by the allow list alone, as before
  unfold admitsProgram at admitted ⊢
  rw [unignored]
  split at admitted
  · cases admitted
  · exact admitted

theorem narrows_eventsOnly (config : Config) :
    ({ config with emitTrades := false } : Config).Narrows config :=
  ⟨rfl, fun _ admitted => admitted, fun _ admitted => admitted, fun off => nomatch off⟩

variable {narrow wide : Config} (narrows : narrow.Narrows wide)
include narrows

theorem Narrows.admitted (instructions : List Located) :
    narrow.admitted instructions =
      (wide.admitted instructions).filter fun entry => narrow.admitsProgram entry.1.program := by
  unfold Config.admitted
  rw [List.filter_filterMap]
  apply List.filterMap_congr
  intro located _
  unfold protocolOf?
  cases Protocol.ofProgram? located.program with
  | none => rfl
  | some protocol =>
      cases admittedNarrow : narrow.admitsProgram located.program with
      | false =>
          cases wide.admitsProgram located.program <;> simp [Option.filter_some, admittedNarrow]
      | true =>
          have admittedWide := narrows.programs located.program admittedNarrow
          simp [Option.filter_some, admittedNarrow, admittedWide]

theorem Narrows.keep? (decoded : Except DecodeError (Option Event)) :
    narrow.keep? decoded = (wide.keep? decoded).filter fun event => narrow.admitsKind event.kind := by
  rcases decoded with fault | _ | event
  · rfl
  · rfl
  · cases admittedNarrow : narrow.admitsKind event.kind with
    | false =>
        cases admittedWide : wide.admitsKind event.kind <;>
          simp [Config.keep?, Option.filter_some, admittedNarrow, admittedWide]
    | true =>
        have admittedWide := narrows.kinds event.kind admittedNarrow
        simp [Config.keep?, Option.filter_some, admittedNarrow, admittedWide]

end Config

namespace View

variable (view : View) {narrow wide : Config} (narrows : narrow.Narrows wide)
include narrows

theorem transfersFor_narrows : view.transfersFor narrow = view.transfersFor wide := by
  unfold transfersFor
  rw [narrows.extraKinds]

theorem keptEvents_narrows :
    view.keptEvents narrow = (view.keptEvents wide).filter narrow.admitsEvent := by
  unfold keptEvents
  rw [view.transfersFor_narrows narrows, narrows.admitted, List.filterMap_filter,
    List.filter_filterMap]
  apply List.filterMap_congr
  intro entry _
  rw [narrows.keep?]
  -- a kept event names the program of the instruction it was decoded from
  cases decoded : view.decodeAt (view.transfersFor wide) entry with
  | error fault => simp [Config.keep?]
  | ok found =>
      cases found with
      | none => simp [Config.keep?]
      | some event =>
          have sameProgram : event.program = entry.1.program :=
            (Protocol.decode_origin decoded).2.1
          cases admittedWide : wide.admitsKind event.kind with
          | false => simp [Config.keep?, admittedWide]
          | true =>
              cases admittedProgram : narrow.admitsProgram entry.1.program <;>
                simp [Config.keep?, Config.admitsEvent, Option.filter_some, sameProgram,
                  admittedWide, admittedProgram]

end View

namespace View

variable (view : View)

def settledTrade (venue : Venue) (event : Event) : Option Trade :=
  match view.trade? venue event with
  | .ok found => found
  | .error _ => none

theorem parse_eq_ok_iff (config : Config) (venue : Option Venue) (outcome : Outcome) :
    view.parse config venue = .ok outcome ↔
      (∀ entry ∈ config.admitted view.flat,
        ∃ found, view.decodeAt (view.transfersFor config) entry = .ok found) ∧
      (if config.emitTrades then view.trades (venue.getD {}) (view.keptEvents config)
        else .ok []) = .ok outcome.trades ∧
      outcome = ⟨view.signature, view.slot, view.blockTime, view.signer, view.keptEvents config,
        outcome.trades⟩ := by
  constructor
  · intro parsed
    obtain ⟨events, decoded, _⟩ := view.events_of_parse config venue parsed
    have all := view.decoded_of_events config _ decoded
    have kept : events = view.keptEvents config :=
      ((view.events_eq_ok_iff config _ view.flat events).mp decoded).2
    rw [view.parse_of_events_ok config venue decoded, kept,
      orderEvents_of_pairwise_before (view.keptEvents_pairwise_before config)] at parsed
    cases settling : (if config.emitTrades then view.trades (venue.getD {}) (view.keptEvents config)
        else .ok []) with
    | error fault =>
        rw [settling] at parsed
        cases parsed
    | ok trades =>
        rw [settling] at parsed
        cases parsed
        exact ⟨all, rfl, rfl⟩
  · rintro ⟨all, settling, shape⟩
    have decoded : view.events config (view.transfersFor config) view.flat =
        .ok (view.keptEvents config) :=
      view.events_of_decoded config (view.transfersFor config) view.flat all
    rw [view.parse_of_events_ok config venue decoded,
      orderEvents_of_pairwise_before (view.keptEvents_pairwise_before config)]
    change ((if config.emitTrades then view.trades (venue.getD {}) (view.keptEvents config)
      else .ok []).map _) = _
    rw [settling, shape]
    rfl

variable (venue : Venue)

theorem trades_cons_of_ok {event : Event} (rest : List Event) {found : Option Trade}
    (settled : view.trade? venue event = .ok found) :
    view.trades venue (event :: rest) = (view.trades venue rest).map (found.toList ++ ·) := by
  rw [trades.eq_2, settled]
  cases view.trades venue rest <;> rfl

theorem trades_of_settled (events : List Event)
    (settled : ∀ event ∈ events, ∃ found, view.trade? venue event = .ok found) :
    view.trades venue events = .ok (events.filterMap (view.settledTrade venue)) := by
  induction events with
  | nil => rfl
  | cons event rest induction =>
      obtain ⟨found, here⟩ := settled event List.mem_cons_self
      have later := induction fun other member => settled other (List.mem_cons_of_mem event member)
      have named : view.settledTrade venue event = found := by
        unfold settledTrade
        rw [here]
      rw [view.trades_cons_of_ok venue rest here, later, List.filterMap_cons, named]
      cases found <;> rfl

theorem settled_of_trades {events : List Event} {settled : List Trade}
    (settling : view.trades venue events = .ok settled) :
    ∀ event ∈ events, ∃ found, view.trade? venue event = .ok found := by
  induction events generalizing settled with
  | nil => simp
  | cons event rest induction =>
      cases here : view.trade? venue event with
      | error fault =>
          rw [trades.eq_2, here] at settling
          cases settling
      | ok found =>
          rw [view.trades_cons_of_ok venue rest here] at settling
          cases later : view.trades venue rest with
          | error fault =>
              rw [later] at settling
              cases settling
          | ok laterTrades =>
              intro other member
              rcases List.mem_cons.mp member with rfl | member
              · exact ⟨found, here⟩
              · exact induction later other member

end View

def Outcome.narrowed (outcome : Outcome) (view : View) (venue : Venue) (narrow : Config) :
    Outcome :=
  let events := outcome.events.filter narrow.admitsEvent
  { outcome with
    events
    trades := if narrow.emitTrades then events.filterMap (view.settledTrade venue) else [] }

theorem Outcome.narrowed_events (outcome : Outcome) (view : View) (venue : Venue)
    (narrow : Config) :
    (outcome.narrowed view venue narrow).events = outcome.events.filter narrow.admitsEvent := rfl

theorem Outcome.narrowed_trades (outcome : Outcome) (view : View) (venue : Venue)
    (narrow : Config) :
    (outcome.narrowed view venue narrow).trades =
      if narrow.emitTrades then
        (outcome.events.filter narrow.admitsEvent).filterMap (view.settledTrade venue)
      else [] := rfl

namespace View

/-- Narrowing a configuration never makes a successful parse fail and only removes entries. The
narrower parse reports the wider one's events that it admits, in the same order; when it settles
trades, so does the wider parse, whose trades are then those settled from its events, and the
narrower parse's trades are the ones settled from the events it keeps. -/
theorem parse_narrowed (view : View) (venue : Option Venue) {narrow wide : Config}
    (narrows : narrow.Narrows wide) {outcome : Outcome}
    (parsed : view.parse wide venue = .ok outcome) :
    view.parse narrow venue = .ok (outcome.narrowed view (venue.getD {}) narrow) ∧
      (narrow.emitTrades = true →
        outcome.trades = outcome.events.filterMap (view.settledTrade (venue.getD {}))) ∧
      (outcome.narrowed view (venue.getD {}) narrow).events.Sublist outcome.events ∧
      (outcome.narrowed view (venue.getD {}) narrow).trades.Sublist outcome.trades := by
  obtain ⟨decoded, settling, shape⟩ := (view.parse_eq_ok_iff wide venue outcome).mp parsed
  have wideEvents : outcome.events = view.keptEvents wide := by
    rw [shape]
  have narrowEvents : view.keptEvents narrow = outcome.events.filter narrow.admitsEvent := by
    rw [view.keptEvents_narrows narrows, ← wideEvents]
  -- a narrower parse that settles trades follows a wider one that settled every event
  have wideTrades : narrow.emitTrades = true →
      (∀ event ∈ outcome.events, ∃ found, view.trade? (venue.getD {}) event = .ok found) ∧
        outcome.trades = outcome.events.filterMap (view.settledTrade (venue.getD {})) := by
    intro emitting
    rw [if_pos (narrows.trades emitting), ← wideEvents] at settling
    have all := view.settled_of_trades (venue.getD {}) settling
    rw [view.trades_of_settled (venue.getD {}) _ all] at settling
    exact ⟨all, (Except.ok.inj settling).symm⟩
  refine ⟨?_, fun emitting => (wideTrades emitting).2, List.filter_sublist, ?_⟩
  · apply (view.parse_eq_ok_iff narrow venue _).mpr
    refine ⟨?_, ?_, ?_⟩
    · intro entry member
      rw [narrows.admitted] at member
      rw [view.transfersFor_narrows narrows]
      exact decoded entry (List.mem_filter.mp member).1
    · rw [narrowEvents, Outcome.narrowed_trades]
      cases emitting : narrow.emitTrades with
      | false => rfl
      | true =>
          apply view.trades_of_settled
          intro event member
          exact (wideTrades emitting).1 event (List.mem_filter.mp member).1
    · -- the stamp of the wider outcome is the transaction's
      rw [narrowEvents, shape]
      rfl
  · rw [Outcome.narrowed_trades]
    cases emitting : narrow.emitTrades with
    | false => exact List.nil_sublist _
    | true =>
        rw [(wideTrades emitting).2]
        exact List.filter_sublist.filterMap _

end View

namespace View

/-- A Sugar buy beside a Sugar migration: keeping only buys, with trades on, keeps the buy and
its trade and drops the migration. -/
theorem parse_narrowed_to_buys :
    let accounts := List.replicate 4 Pubkey.zero
    -- a buy of 2000 token units for 1000 lamports
    let buy : Instruction := ⟨Programs.sugar, accounts,
      Sugar.buyExactIn ++ [0, 0, 232, 3, 0, 0, 0, 0, 0, 0, 208, 7, 0, 0, 0, 0, 0, 0]⟩
    let view : View :=
      ⟨{ instructions := [buy, ⟨Programs.sugar, accounts, Sugar.migrate⟩] }, {}⟩
    let narrow : Config := { filter := some ⟨some [.buy], none⟩ }
    let bought : Event :=
      { stamp := ⟨Signature.zero, 0, 0, ⟨0, none⟩⟩, protocol := .sugar, kind := .buy,
        program := Programs.sugar, baseMint := some Pubkey.zero,
        quoteMint := some Programs.wrappedSol, bondingCurve := some Pubkey.zero,
        user := some Pubkey.zero, input := some (TokenAmount.sol 1000),
        output := some (TokenAmount.hinted Pubkey.zero 2000 Sugar.defaultDecimals) }
    let migration : Event :=
      { stamp := ⟨Signature.zero, 0, 0, ⟨1, none⟩⟩, protocol := .sugar, kind := .migrate,
        program := Programs.sugar, baseMint := some Pubkey.zero,
        quoteMint := some Programs.wrappedSol, bondingCurve := some Pubkey.zero,
        pool := some Pubkey.zero, user := some Pubkey.zero }
    let trades := (view.settledTrade {} bought).toList
    let outcome : Outcome := ⟨Signature.zero, 0, 0, Pubkey.zero, [bought, migration], trades⟩
    trades ≠ [] ∧ narrow.Narrows {} ∧ view.parse {} none = .ok outcome ∧
      outcome.narrowed view {} narrow = ⟨Signature.zero, 0, 0, Pubkey.zero, [bought], trades⟩ ∧
      (view.parse narrow none = .ok (outcome.narrowed view {} narrow) ∧
        (narrow.emitTrades = true →
          outcome.trades = outcome.events.filterMap (view.settledTrade {})) ∧
        (outcome.narrowed view {} narrow).events.Sublist outcome.events ∧
        (outcome.narrowed view {} narrow).trades.Sublist outcome.trades) := by
  intro accounts buy view narrow bought migration trades outcome
  have narrows : narrow.Narrows {} := ⟨rfl, fun _ _ => rfl, fun _ _ => rfl, fun _ => rfl⟩
  have settled : trades ≠ [] := by decide +kernel
  have decoded : view.events {} (view.transfersFor {}) view.flat = .ok [bought, migration] := by
    decide +kernel
  have parsed : view.parse {} none = .ok outcome := by
    rw [view.parse_of_events_ok {} none decoded, view.orderEvents_of_events_ok {} decoded]
    decide +kernel
  have narrowed : outcome.narrowed view {} narrow =
      ⟨Signature.zero, 0, 0, Pubkey.zero, [bought], trades⟩ := by
    decide +kernel
  exact ⟨settled, narrows, parsed, narrowed, parse_narrowed _ none narrows parsed⟩

end View

end MemeEvents
