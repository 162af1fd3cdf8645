import MemeEvents.Parse.Outcome
import MemeEvents.Proofs.Chain.Order
import MemeEvents.Proofs.Decode.Origin

/-! What a parse decodes and what it keeps. -/

namespace MemeEvents

namespace Config

def protocolOf? (config : Config) (located : Located) : Option Protocol :=
  (Protocol.ofProgram? located.program).filter fun _ => config.admitsProgram located.program

def admitted (config : Config) (instructions : List Located) : List (Located × Protocol) :=
  instructions.filterMap fun located => (config.protocolOf? located).map (located, ·)

def keep? (config : Config) : Except DecodeError (Option Event) → Option Event
  | .ok (some event) => if config.admitsKind event.kind then some event else none
  | _ => none

theorem protocolOf?_eq_some {config : Config} {located : Located} {protocol : Protocol} :
    config.protocolOf? located = some protocol ↔
      Protocol.ofProgram? located.program = some protocol ∧
        config.admitsProgram located.program = true := by
  simp [protocolOf?, Option.filter_eq_some_iff]

theorem mem_admitted {config : Config} {instructions : List Located}
    {entry : Located × Protocol} :
    entry ∈ config.admitted instructions ↔
      entry.1 ∈ instructions ∧ config.protocolOf? entry.1 = some entry.2 := by
  obtain ⟨located, protocol⟩ := entry
  simp only [admitted, List.mem_filterMap, Option.map_eq_some_iff, Prod.mk.injEq]
  constructor
  · rintro ⟨candidate, member, found, chosen, rfl, rfl⟩
    exact ⟨member, chosen⟩
  · rintro ⟨member, chosen⟩
    exact ⟨located, member, protocol, chosen, rfl, rfl⟩

theorem admitted_cons_of_none {config : Config} {located : Located} (rest : List Located)
    (skipped : config.protocolOf? located = none) :
    config.admitted (located :: rest) = config.admitted rest := by
  simp [admitted, skipped]

theorem admitted_cons_of_some {config : Config} {located : Located} {protocol : Protocol}
    (rest : List Located) (chosen : config.protocolOf? located = some protocol) :
    config.admitted (located :: rest) = (located, protocol) :: config.admitted rest := by
  simp [admitted, chosen]

theorem keep?_eq_some {config : Config} {decoded : Except DecodeError (Option Event)}
    {event : Event} :
    config.keep? decoded = some event ↔
      decoded = .ok (some event) ∧ config.admitsKind event.kind = true := by
  unfold keep?
  split
  · rename_i found
    by_cases admitted : config.admitsKind found.kind = true
    · simp only [admitted, if_true, Option.some.injEq, Except.ok.injEq]
      constructor
      · rintro rfl
        exact ⟨rfl, admitted⟩
      · rintro ⟨rfl, -⟩
        rfl
    · simp only [admitted, Bool.false_eq_true, if_false, reduceCtorEq, false_iff, not_and,
        Except.ok.injEq, Option.some.injEq]
      rintro rfl
      exact admitted
  · rename_i other
    simp only [reduceCtorEq, false_iff, not_and]
    rintro rfl
    exact absurd rfl (other _)

end Config

namespace View

variable (view : View) (config : Config) (transfers : TransferMap)

def transfersFor : TransferMap :=
  (Correlator.withExtra config.extraKinds).correlate view

def decodeAt (entry : Located × Protocol) : Except DecodeError (Option Event) :=
  entry.2.decode ⟨entry.2, entry.1, view, transfers⟩

def keptEvents : List Event :=
  (config.admitted view.flat).filterMap fun entry =>
    config.keep? (view.decodeAt (view.transfersFor config) entry)

/-! The three steps of `View.events`: an instruction that is not decoded, one whose decoding
fails, and one whose decoding succeeds. -/

theorem events_cons_of_none {located : Located} (rest : List Located)
    (skipped : config.protocolOf? located = none) :
    view.events config transfers (located :: rest) = view.events config transfers rest := by
  cases known : Protocol.ofProgram? located.program with
  | none => rw [events.eq_2, known]
  | some protocol =>
      have refused : config.admitsProgram located.program = false := by
        unfold Config.protocolOf? at skipped
        rw [known, Option.filter_some] at skipped
        cases allowed : config.admitsProgram located.program with
        | false => rfl
        | true =>
          rw [allowed, if_pos rfl] at skipped
          cases skipped
      rw [events.eq_2, known]
      simp only [refused, Bool.not_false, if_true]

theorem events_cons_of_error {located : Located} {protocol : Protocol} (rest : List Located)
    (chosen : config.protocolOf? located = some protocol) {fault : DecodeError}
    (failed : view.decodeAt transfers (located, protocol) = .error fault) :
    view.events config transfers (located :: rest) =
      .error (.decode protocol view.signature located.position fault) := by
  obtain ⟨known, allowed⟩ := Config.protocolOf?_eq_some.mp chosen
  rw [events.eq_2, known]
  simp only [allowed, Bool.not_true, Bool.false_eq_true, if_false]
  rw [show protocol.decode ⟨protocol, located, view, transfers⟩ = .error fault from failed]

theorem events_cons_of_ok {located : Located} {protocol : Protocol} (rest : List Located)
    (chosen : config.protocolOf? located = some protocol) {found : Option Event}
    (decoded : view.decodeAt transfers (located, protocol) = .ok found) :
    view.events config transfers (located :: rest) =
      (view.events config transfers rest).map fun later =>
        (config.keep? (.ok found)).toList ++ later := by
  obtain ⟨known, allowed⟩ := Config.protocolOf?_eq_some.mp chosen
  rw [events.eq_2, known]
  simp only [allowed, Bool.not_true, Bool.false_eq_true, if_false]
  rw [show protocol.decode ⟨protocol, located, view, transfers⟩ = .ok found from decoded]
  -- nothing kept leaves the later events as they are
  have unchanged := (congrFun Except.map_id (view.events config transfers rest)).symm
  cases found with
  | none => exact unchanged
  | some event =>
      by_cases kept : config.admitsKind event.kind = true
      · simp [Config.keep?, kept]
      · simp only [Config.keep?, kept, Bool.false_eq_true, if_false, Option.toList_none,
          List.nil_append]
        exact unchanged

theorem events_of_decoded (instructions : List Located)
    (decoded : ∀ entry ∈ config.admitted instructions,
      ∃ found, view.decodeAt transfers entry = .ok found) :
    view.events config transfers instructions =
      .ok ((config.admitted instructions).filterMap fun entry =>
        config.keep? (view.decodeAt transfers entry)) := by
  induction instructions with
  | nil => rfl
  | cons located rest induction =>
      cases chosen : config.protocolOf? located with
      | none =>
          rw [Config.admitted_cons_of_none rest chosen] at decoded ⊢
          rw [view.events_cons_of_none config transfers rest chosen]
          exact induction decoded
      | some protocol =>
          rw [Config.admitted_cons_of_some rest chosen] at decoded ⊢
          obtain ⟨found, here⟩ := decoded (located, protocol) List.mem_cons_self
          have later := induction fun entry member => decoded entry (List.mem_cons_of_mem _ member)
          rw [view.events_cons_of_ok config transfers rest chosen here, later, List.filterMap_cons,
            here]
          cases config.keep? (.ok found) <;> rfl

theorem decoded_of_events {instructions : List Located} {events : List Event}
    (parsed : view.events config transfers instructions = .ok events) :
    ∀ entry ∈ config.admitted instructions, ∃ found, view.decodeAt transfers entry = .ok found := by
  induction instructions generalizing events with
  | nil => simp [Config.admitted]
  | cons located rest induction =>
      cases chosen : config.protocolOf? located with
      | none =>
          rw [Config.admitted_cons_of_none rest chosen]
          rw [view.events_cons_of_none config transfers rest chosen] at parsed
          exact induction parsed
      | some protocol =>
          rw [Config.admitted_cons_of_some rest chosen]
          cases here : view.decodeAt transfers (located, protocol) with
          | error fault =>
              rw [view.events_cons_of_error config transfers rest chosen here] at parsed
              cases parsed
          | ok found =>
              rw [view.events_cons_of_ok config transfers rest chosen here] at parsed
              cases later : view.events config transfers rest with
              | error fault =>
                  rw [later] at parsed
                  cases parsed
              | ok laterEvents =>
                  intro entry member
                  rcases List.mem_cons.mp member with rfl | member
                  · exact ⟨found, here⟩
                  · exact induction later entry member

theorem events_eq_ok_iff (instructions : List Located) (events : List Event) :
    view.events config transfers instructions = .ok events ↔
      (∀ entry ∈ config.admitted instructions,
        ∃ found, view.decodeAt transfers entry = .ok found) ∧
      events = (config.admitted instructions).filterMap fun entry =>
        config.keep? (view.decodeAt transfers entry) := by
  constructor
  · intro parsed
    have decoded := view.decoded_of_events config transfers parsed
    rw [view.events_of_decoded config transfers instructions decoded] at parsed
    exact ⟨decoded, (Except.ok.inj parsed).symm⟩
  · rintro ⟨decoded, rfl⟩
    exact view.events_of_decoded config transfers instructions decoded

theorem exists_of_mem_keptEvents {event : Event} (member : event ∈ view.keptEvents config) :
    ∃ located ∈ view.flat,
      Protocol.ofProgram? located.program = some event.protocol ∧
      config.admitsProgram located.program = true ∧
      view.decodeAt (view.transfersFor config) (located, event.protocol) = .ok (some event) ∧
      config.admitsKind event.kind = true ∧
      event.program = located.program ∧
      event.stamp = ⟨view.signature, view.slot, view.blockTime, located.position⟩ := by
  obtain ⟨⟨located, protocol⟩, admittedHere, kept⟩ := List.mem_filterMap.mp member
  obtain ⟨decoded, kind⟩ := Config.keep?_eq_some.mp kept
  obtain ⟨inFlat, chosen⟩ := Config.mem_admitted.mp admittedHere
  obtain ⟨known, allowed⟩ := Config.protocolOf?_eq_some.mp chosen
  obtain ⟨sameProtocol, sameProgram, stamp⟩ := Protocol.decode_origin decoded
  -- the decoder's context names `protocol`, so the event does too
  have named : event.protocol = protocol := sameProtocol
  subst named
  exact ⟨located, inFlat, known, allowed, decoded, kind, sameProgram, stamp⟩

theorem keptEvents_pairwise_before :
    ((view.keptEvents config).map (·.stamp.position)).Pairwise Position.Before := by
  rw [List.pairwise_map]
  have admittedOrder : (config.admitted view.flat).Pairwise fun first second =>
      first.1.position.Before second.1.position := by
    apply List.Pairwise.filterMap _ _ (List.pairwise_map.mp view.pairwise_before_flat)
    intro first second before entry chosen other otherChosen
    obtain ⟨protocol, -, rfl⟩ := Option.map_eq_some_iff.mp chosen
    obtain ⟨otherProtocol, -, rfl⟩ := Option.map_eq_some_iff.mp otherChosen
    exact before
  apply List.Pairwise.filterMap _ _ admittedOrder
  intro first second before event kept other otherKept
  obtain ⟨decoded, -⟩ := Config.keep?_eq_some.mp kept
  obtain ⟨otherDecoded, -⟩ := Config.keep?_eq_some.mp otherKept
  rw [(Protocol.decode_origin decoded).2.2, (Protocol.decode_origin otherDecoded).2.2]
  exact before

theorem orderEvents_of_pairwise_before {events : List Event}
    (ordered : (events.map (·.stamp.position)).Pairwise Position.Before) :
    orderEvents events = events := by
  apply List.mergeSort_of_pairwise
  exact (List.pairwise_map.mp ordered).imp Position.keyLE_of_before

/-- The events a transaction decodes to come out in execution order, so sorting them by position
leaves them as they are. -/
theorem orderEvents_of_events_ok {events : List Event}
    (decoded : view.events config (view.transfersFor config) view.flat = .ok events) :
    orderEvents events = events := by
  have kept : events = view.keptEvents config :=
    ((view.events_eq_ok_iff config _ view.flat events).mp decoded).2
  rw [kept]
  exact orderEvents_of_pairwise_before (view.keptEvents_pairwise_before config)

variable (venue : Option Venue)

/-! The two steps of a parse: decoding fails, or it succeeds and the trades are settled. -/

theorem parse_of_events_error {fault : ParseError}
    (failed : view.events config (view.transfersFor config) view.flat = .error fault) :
    view.parse config venue = .error fault := by
  unfold parse
  rw [Correlator.withExtra_of_isEmpty]
  simp only [transfersFor] at failed
  simp [failed, bind, Except.bind]

theorem parse_of_events_ok {events : List Event}
    (decoded : view.events config (view.transfersFor config) view.flat = .ok events) :
    view.parse config venue =
      (if config.emitTrades then view.trades (venue.getD {}) (orderEvents events) else .ok []).map
        fun trades => ⟨view.signature, view.slot, view.blockTime, view.signer, orderEvents events,
          trades⟩ := by
  unfold parse
  rw [Correlator.withExtra_of_isEmpty]
  simp only [transfersFor] at decoded
  simp only [decoded, bind, Except.bind]
  cases config.emitTrades with
  | false => rfl
  | true =>
      simp only [if_true]
      cases view.trades (venue.getD {}) (orderEvents events) <;> rfl

theorem events_of_parse {outcome : Outcome} (parsed : view.parse config venue = .ok outcome) :
    ∃ events, view.events config (view.transfersFor config) view.flat = .ok events ∧
      outcome.events = orderEvents events := by
  cases decoded : view.events config (view.transfersFor config) view.flat with
  | error fault =>
      rw [view.parse_of_events_error config venue decoded] at parsed
      cases parsed
  | ok events =>
      rw [view.parse_of_events_ok config venue decoded] at parsed
      refine ⟨events, rfl, ?_⟩
      -- the trades only decide whether the parse succeeds; the outcome holds the ordered events
      cases settled : (if config.emitTrades then view.trades (venue.getD {}) (orderEvents events)
          else .ok []) with
      | error fault =>
          rw [settled] at parsed
          cases parsed
      | ok trades =>
          rw [settled] at parsed
          cases parsed
          rfl

/-- What a successful parse says of its events: they are exactly the kept events, in execution
order; each is the decoding of an admitted instruction of the transaction by the protocol of its
program, is of an admitted kind, names the instruction's program and is stamped with the
transaction and the instruction's position; their positions strictly increase, so no two are
equal, and their sort keys never decrease. -/
structure ReportedEvents (events : List Event) : Prop where
  kept : events = view.keptEvents config
  origin : ∀ event ∈ events, ∃ located ∈ view.flat,
    Protocol.ofProgram? located.program = some event.protocol ∧
    config.admitsProgram located.program = true ∧
    view.decodeAt (view.transfersFor config) (located, event.protocol) = .ok (some event) ∧
    config.admitsKind event.kind = true ∧
    event.program = located.program ∧
    event.stamp = ⟨view.signature, view.slot, view.blockTime, located.position⟩
  ordered : (events.map (·.stamp.position)).Pairwise Position.Before
  sortKeys : events.Pairwise fun first second =>
    Position.keyLE first.stamp.position second.stamp.position = true

theorem parse_events_in_execution_order {outcome : Outcome}
    (parsed : view.parse config venue = .ok outcome) :
    view.ReportedEvents config outcome.events := by
  obtain ⟨events, decoded, ordered⟩ := view.events_of_parse config venue parsed
  have kept : events = view.keptEvents config :=
    ((view.events_eq_ok_iff config _ view.flat events).mp decoded).2
  have sorted := view.keptEvents_pairwise_before config
  rw [ordered, kept, orderEvents_of_pairwise_before sorted]
  refine ⟨rfl, fun event member => view.exists_of_mem_keptEvents config member, sorted, ?_⟩
  exact (List.pairwise_map.mp sorted).imp Position.keyLE_of_before

/-! Events and outcomes compare field by field, so the parse of a given transaction can be
checked by evaluation. -/

deriving instance DecidableEq for Event, Trade, Outcome, ParseError, Except

/-- Migrations by an outer instruction, by its first inner instruction and by the next outer
instruction, with a buy beside them that the filter drops, parse to the three migrations in
execution order: the outer instruction and its first inner one share a sort key and keep their
order. -/
theorem parse_sugar_migrations_without_buys :
    let migrate : Instruction := ⟨Programs.sugar, List.replicate 4 Pubkey.zero, Sugar.migrate⟩
    let buy : Instruction :=
      ⟨Programs.sugar, List.replicate 4 Pubkey.zero, Sugar.buyExactIn ++ List.replicate 18 0⟩
    let view : View :=
      ⟨{ instructions := [migrate, migrate], innerSets := [⟨0, [migrate, buy]⟩] }, {}⟩
    let config : Config := { filter := some { exclude := some [.buy] } }
    let migration (position : Position) : Event :=
      { stamp := ⟨Signature.zero, 0, 0, position⟩, protocol := .sugar, kind := .migrate,
        program := Programs.sugar, baseMint := some Pubkey.zero,
        quoteMint := some Programs.wrappedSol, bondingCurve := some Pubkey.zero,
        pool := some Pubkey.zero, user := some Pubkey.zero }
    let migrations := [migration ⟨0, none⟩, migration ⟨0, some 0⟩, migration ⟨1, none⟩]
    view.parse config none = .ok ⟨Signature.zero, 0, 0, Pubkey.zero, migrations, []⟩ ∧
      view.ReportedEvents config migrations := by
  intro migrate buy view config migration migrations
  have decoded : view.events config (view.transfersFor config) view.flat = .ok migrations := by
    decide +kernel
  have parsed : view.parse config none = .ok ⟨Signature.zero, 0, 0, Pubkey.zero, migrations, []⟩ := by
    rw [view.parse_of_events_ok config none decoded, view.orderEvents_of_events_ok config decoded]
    decide +kernel
  exact ⟨parsed, parse_events_in_execution_order _ _ _ parsed⟩

end View

end MemeEvents
