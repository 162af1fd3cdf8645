import MemeEvents.Proofs.Parse.Dispatch
import MemeEvents.Proofs.Decode.Outcomes

/-!
Why a parse fails. Decoding comes first: the first admitted instruction, in execution order, whose
decoding fails decides the error, whatever the event filter and the trade setting say.
-/

namespace MemeEvents

/-- `item` is the first of `items` that `check` fails on, with `fault`: every item before it
passes. -/
def FirstFault {α β ε : Type} (check : α → Except ε β) (items : List α) (item : α) (fault : ε) :
    Prop :=
  ∃ before after, items = before ++ item :: after ∧
    (∀ earlier ∈ before, ∃ result, check earlier = .ok result) ∧ check item = .error fault

namespace FirstFault

variable {α β ε : Type} {check : α → Except ε β} {item : α} {fault : ε}

theorem not_nil : ¬ FirstFault check [] item fault := by
  rintro ⟨before, after, split, -, -⟩
  cases before <;> cases split

theorem cons_iff {head : α} {rest : List α} :
    FirstFault check (head :: rest) item fault ↔
      (item = head ∧ check head = .error fault) ∨
        ((∃ result, check head = .ok result) ∧ FirstFault check rest item fault) := by
  constructor
  · rintro ⟨before, after, split, passed, failed⟩
    rcases List.cons_eq_append_iff.mp split with ⟨rfl, equal⟩ | ⟨later, rfl, rest⟩
    · cases equal
      exact Or.inl ⟨rfl, failed⟩
    · refine Or.inr ⟨passed head List.mem_cons_self, later, after, rest, ?_, failed⟩
      exact fun earlier member => passed earlier (List.mem_cons_of_mem head member)
  · rintro (⟨rfl, failed⟩ | ⟨passedHead, before, after, rfl, passed, failed⟩)
    · exact ⟨[], rest, rfl, by simp, failed⟩
    · refine ⟨head :: before, after, rfl, ?_, failed⟩
      intro earlier member
      rcases List.mem_cons.mp member with rfl | member
      · exact passedHead
      · exact passed earlier member

theorem cons_of_error {head : α} {rest : List α} {cause : ε}
    (failed : check head = .error cause) :
    FirstFault check (head :: rest) item fault ↔ item = head ∧ fault = cause := by
  rw [cons_iff, failed]
  constructor
  · rintro (⟨rfl, equal⟩ | ⟨⟨result, passed⟩, -⟩)
    · exact ⟨rfl, (Except.error.inj equal).symm⟩
    · cases passed
  · rintro ⟨rfl, rfl⟩
    exact Or.inl ⟨rfl, rfl⟩

theorem cons_of_ok {head : α} {rest : List α} {result : β} (passed : check head = .ok result) :
    FirstFault check (head :: rest) item fault ↔ FirstFault check rest item fault := by
  rw [cons_iff, passed]
  constructor
  · rintro (⟨-, failed⟩ | ⟨-, later⟩)
    · cases failed
    · exact later
  · exact fun later => Or.inr ⟨⟨result, rfl⟩, later⟩

theorem mapM_eq_error_iff {items : List α} :
    items.mapM check = .error fault ↔ ∃ item, FirstFault check items item fault := by
  induction items with
  | nil => exact ⟨nofun, fun ⟨_, noFault⟩ => (not_nil noFault).elim⟩
  | cons head rest induction =>
    rw [List.mapM_cons]
    cases ran : check head with
    | error cause =>
      simp only [Except.error_bind, Except.error.injEq, cons_of_error ran]
      exact ⟨fun same => ⟨head, rfl, same.symm⟩, fun ⟨_, _, same⟩ => same.symm⟩
    | ok result =>
      rw [Except.ok_bind, Except.bind_pure_eq_error_iff, induction]
      simp only [cons_of_ok ran]

end FirstFault

private theorem except_map_eq_error {α β ε : Type} (f : α → β) (computation : Except ε α)
    (fault : ε) : computation.map f = .error fault ↔ computation = .error fault := by
  cases computation <;> simp [Except.map]

namespace View

variable (view : View) (config : Config) (transfers : TransferMap)

theorem events_eq_error_iff (instructions : List Located) (fault : ParseError) :
    view.events config transfers instructions = .error fault ↔
      ∃ entry cause, FirstFault (view.decodeAt transfers) (config.admitted instructions) entry cause ∧
        fault = .decode entry.2 view.signature entry.1.position cause := by
  induction instructions with
  | nil =>
      simp only [events, reduceCtorEq, false_iff, not_exists, not_and]
      exact fun entry cause noFault => absurd noFault FirstFault.not_nil
  | cons located rest induction =>
      cases chosen : config.protocolOf? located with
      | none =>
          rw [view.events_cons_of_none config transfers rest chosen,
            Config.admitted_cons_of_none rest chosen]
          exact induction
      | some protocol =>
          rw [Config.admitted_cons_of_some rest chosen]
          cases decoded : view.decodeAt transfers (located, protocol) with
          | error cause =>
              rw [view.events_cons_of_error config transfers rest chosen decoded]
              simp only [FirstFault.cons_of_error decoded, Except.error.injEq]
              constructor
              · rintro rfl
                exact ⟨(located, protocol), cause, ⟨rfl, rfl⟩, rfl⟩
              · rintro ⟨entry, other, ⟨rfl, rfl⟩, rfl⟩
                rfl
          | ok found =>
              rw [view.events_cons_of_ok config transfers rest chosen decoded,
                except_map_eq_error]
              simp only [FirstFault.cons_of_ok decoded]
              exact induction

variable (venue : Venue)

theorem trades_eq_error_iff (events : List Event) (fault : ParseError) :
    view.trades venue events = .error fault ↔
      ∃ event cause, FirstFault (view.trade? venue) events event cause ∧
        fault = .decode event.protocol view.signature event.stamp.position cause := by
  induction events with
  | nil =>
      simp only [trades, reduceCtorEq, false_iff, not_exists, not_and]
      exact fun event cause noFault => absurd noFault FirstFault.not_nil
  | cons event rest induction =>
      cases settled : view.trade? venue event with
      | error cause =>
          simp only [trades, settled, FirstFault.cons_of_error settled, Except.error.injEq]
          constructor
          · rintro rfl
            exact ⟨event, cause, ⟨rfl, rfl⟩, rfl⟩
          · rintro ⟨other, reason, ⟨rfl, rfl⟩, rfl⟩
            rfl
      | ok found =>
          simp only [FirstFault.cons_of_ok settled]
          rw [← induction]
          simp only [trades, settled, bind, Except.bind, pure, Except.pure]
          cases view.trades venue rest <;> simp

/-- A parse fails in exactly two ways, and reports the first fault. Either an admitted
instruction fails to decode, and the first such one in execution order decides the error,
whatever the event filter and the trade setting say; or every admitted instruction decodes,
trades are asked for, and the first kept event whose trade cannot be settled decides it. -/
theorem parse_eq_error_iff (config : Config) (venue : Option Venue) (fault : ParseError) :
    view.parse config venue = .error fault ↔
      (∃ entry cause,
        FirstFault (view.decodeAt (view.transfersFor config)) (config.admitted view.flat)
          entry cause ∧
        fault = .decode entry.2 view.signature entry.1.position cause) ∨
      ((∀ entry ∈ config.admitted view.flat,
          ∃ found, view.decodeAt (view.transfersFor config) entry = .ok found) ∧
        config.emitTrades = true ∧
        ∃ event cause,
          FirstFault (view.trade? (venue.getD {})) (view.keptEvents config) event cause ∧
          fault = .decode event.protocol view.signature event.stamp.position cause) := by
  rw [← view.events_eq_error_iff config _ view.flat fault]
  cases decoded : view.events config (view.transfersFor config) view.flat with
  | error reason =>
      rw [view.parse_of_events_error config venue decoded]
      simp only [Except.error.injEq]
      -- decoding failed, so some admitted instruction does not decode
      have notAll : ¬ ∀ entry ∈ config.admitted view.flat,
          ∃ found, view.decodeAt (view.transfersFor config) entry = .ok found := by
        intro all
        rw [view.events_of_decoded config _ view.flat all] at decoded
        cases decoded
      constructor
      · intro same
        exact Or.inl same
      · intro cases
        rcases cases with same | ⟨all, -⟩
        · exact same
        · exact absurd all notAll
  | ok events =>
      have all := view.decoded_of_events config _ decoded
      have kept : events = view.keptEvents config :=
        ((view.events_eq_ok_iff config _ view.flat events).mp decoded).2
      rw [view.parse_of_events_ok config venue decoded, kept,
        orderEvents_of_pairwise_before (view.keptEvents_pairwise_before config)]
      cases emitting : config.emitTrades with
      | false => simp [Except.map]
      | true =>
          simp only [if_true, except_map_eq_error, view.trades_eq_error_iff (venue.getD {}),
            reduceCtorEq, false_or, true_and]
          exact ⟨fun settling => ⟨all, settling⟩, fun both => both.2⟩

end View

end MemeEvents
