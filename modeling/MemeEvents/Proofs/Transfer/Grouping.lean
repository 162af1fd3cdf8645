import MemeEvents.Transfer.Correlate
import MemeEvents.Proofs.Chain.Order
import MemeEvents.Proofs.Transfer.Map

/-!
Which instruction each balance movement is charged to. An outer instruction's own movement is
charged to itself.
-/

namespace MemeEvents

namespace Correlator

def takesCharge (ix : Instruction) : Bool :=
  !isPassthrough ix.program && !Programs.isEventLog ix.data

def chargedTo (view : View) (top : Instruction) (outer i : Nat) : TransferKey :=
  match ((view.innerOf outer).zipIdx.take i).reverse.find? (fun entry => takesCharge entry.1) with
  | some (ix, j) => ⟨ix.program, ⟨outer, some j⟩⟩
  | none => ⟨top.program, ⟨outer, none⟩⟩

variable (c : Correlator) (view : View)

def innerCharge (top : Instruction) (outer : Nat) (entry : Instruction × Nat) :
    Option (TransferKey × TransferRecord) :=
  if isPassthrough entry.1.program then
    (c.record? view entry.1 ⟨outer, some entry.2⟩).map (chargedTo view top outer entry.2, ·)
  else none

def chargesUnder (top : Instruction) (outer : Nat) : List (TransferKey × TransferRecord) :=
  ((c.record? view top ⟨outer, none⟩).map (⟨top.program, ⟨outer, none⟩⟩, ·)).toList ++
    (view.innerOf outer).zipIdx.filterMap (c.innerCharge view top outer)

def charges : List (TransferKey × TransferRecord) :=
  view.instructions.zipIdx.flatMap fun (top, outer) => c.chargesUnder view top outer

/-! The charged key before the first inner instruction, and from one inner instruction to the
next. -/

theorem chargedTo_zero (top : Instruction) (outer : Nat) :
    chargedTo view top outer 0 = ⟨top.program, ⟨outer, none⟩⟩ := rfl

theorem chargedTo_succ (top : Instruction) {outer i : Nat} {ix : Instruction}
    (at_ : (view.innerOf outer)[i]? = some ix) :
    chargedTo view top outer (i + 1) =
      if takesCharge ix then ⟨ix.program, ⟨outer, some i⟩⟩ else chargedTo view top outer i := by
  have extended : (view.innerOf outer).zipIdx.take (i + 1) =
      (view.innerOf outer).zipIdx.take i ++ [(ix, i)] := by
    rw [List.take_add_one, List.getElem?_zipIdx, at_]
    simp
  unfold chargedTo
  rw [extended, List.reverse_append]
  cases charge : takesCharge ix <;> simp [charge]

def Quiet (outer lo hi : Nat) : Prop :=
  ∀ k ix, lo ≤ k → k < hi → (view.innerOf outer)[k]? = some ix → takesCharge ix = false

theorem Quiet.empty (outer lo : Nat) : Quiet view outer lo lo := by
  intro k ix low high
  omega

theorem Quiet.extend {outer lo hi : Nat} (quiet : Quiet view outer lo hi)
    (next : ∀ ix, (view.innerOf outer)[hi]? = some ix → takesCharge ix = false) :
    Quiet view outer lo (hi + 1) := by
  intro k ix low high at_
  rcases Nat.lt_succ_iff_lt_or_eq.mp high with before | same
  · exact quiet k ix low before at_
  · subst same
    exact next ix at_

theorem chargedTo_succ_of_quiet (top : Instruction) {outer i : Nat}
    (quiet : ∀ ix, (view.innerOf outer)[i]? = some ix → takesCharge ix = false) :
    chargedTo view top outer (i + 1) = chargedTo view top outer i := by
  cases at_ : (view.innerOf outer)[i]? with
  | some ix =>
    rw [chargedTo_succ view top at_, quiet ix at_]
    rfl
  | none =>
    -- past the end the prefix no longer grows
    have beyond : (view.innerOf outer).zipIdx.length ≤ i := by
      rw [List.length_zipIdx]
      exact List.getElem?_eq_none_iff.mp at_
    unfold chargedTo
    rw [List.take_of_length_le beyond, List.take_of_length_le (Nat.le_succ_of_le beyond)]

theorem chargedTo_latest (top : Instruction) (outer i : Nat) :
    (∃ j < i, ∃ ix, (view.innerOf outer)[j]? = some ix ∧ takesCharge ix = true ∧
        Quiet view outer (j + 1) i ∧ chargedTo view top outer i = ⟨ix.program, ⟨outer, some j⟩⟩) ∨
      (Quiet view outer 0 i ∧ chargedTo view top outer i = ⟨top.program, ⟨outer, none⟩⟩) := by
  induction i with
  | zero => exact Or.inr ⟨Quiet.empty view outer 0, chargedTo_zero view top outer⟩
  | succ i ih =>
    by_cases quiet : ∀ ix, (view.innerOf outer)[i]? = some ix → takesCharge ix = false
    · rw [chargedTo_succ_of_quiet view top quiet]
      rcases ih with ⟨j, before, ix, at_, charge, between, charged⟩ | ⟨none, charged⟩
      · exact Or.inl ⟨j, by omega, ix, at_, charge, between.extend view quiet, charged⟩
      · exact Or.inr ⟨none.extend view quiet, charged⟩
    · -- the inner instruction at `i` takes charge itself
      push Not at quiet
      rcases quiet with ⟨ix, at_, charge⟩
      have takes : takesCharge ix = true := by simpa using charge
      refine Or.inl ⟨i, Nat.lt_succ_self i, ix, at_, takes, Quiet.empty view outer (i + 1), ?_⟩
      rw [chargedTo_succ view top at_, if_pos takes]

theorem chargedTo_outer (top : Instruction) (outer i : Nat) :
    (chargedTo view top outer i).position.outer = outer := by
  unfold chargedTo
  split <;> rfl

/-! A decoded movement carries the position it was decoded at. The decoders are peeled one
bind at a time: a simp set would have to rewrite under their guards. -/

theorem nativeRecord?_fields {ix : Instruction} {position : Position} {record : TransferRecord}
    (found : c.nativeRecord? ix position = some record) :
    record.kind = .native ∧ record.position = position := by
  unfold nativeRecord? at found
  rcases Option.bind_eq_some_iff.mp found with ⟨_, _, found⟩
  rcases Option.bind_eq_some_iff.mp found with ⟨_, _, found⟩
  rcases Option.bind_eq_some_iff.mp found with ⟨_, _, found⟩
  rcases Option.bind_eq_some_iff.mp found with ⟨_, _, found⟩
  cases found
  exact ⟨rfl, rfl⟩

theorem moveRecord?_fields {move : TokenMove} {program : Pubkey} {position : Position}
    {record : TransferRecord} (found : move.record? view program position = some record) :
    record.kind = move.kind ∧ record.program = program ∧ record.position = position := by
  unfold TokenMove.record? at found
  rcases Option.bind_eq_some_iff.mp found with ⟨_, _, found⟩
  rcases Option.bind_eq_some_iff.mp found with ⟨_, _, found⟩
  cases found
  exact ⟨rfl, rfl, rfl⟩

theorem tokenRecord?_position {ix : Instruction} {position : Position} {record : TransferRecord}
    (found : c.tokenRecord? view ix position = some record) : record.position = position := by
  unfold tokenRecord? at found
  rcases Option.bind_eq_some_iff.mp found with ⟨_, _, found⟩
  rcases Option.bind_eq_some_iff.mp found with ⟨_, _, found⟩
  exact (moveRecord?_fields view found).2.2

theorem record?_position {ix : Instruction} {position : Position} {record : TransferRecord}
    (found : c.record? view ix position = some record) : record.position = position := by
  unfold record? at found
  split at found
  · exact (c.nativeRecord?_fields found).2
  · split at found
    · exact c.tokenRecord?_position view found
    · cases found

/-! A decoded movement also carries the UI value of its amount at its decimals. -/

theorem nativeRecord?_ui {ix : Instruction} {position : Position} {record : TransferRecord}
    (found : c.nativeRecord? ix position = some record) :
    record.ui = Ui.value record.raw record.decimals := by
  unfold nativeRecord? at found
  rcases Option.bind_eq_some_iff.mp found with ⟨_, _, found⟩
  rcases Option.bind_eq_some_iff.mp found with ⟨_, _, found⟩
  rcases Option.bind_eq_some_iff.mp found with ⟨_, _, found⟩
  rcases Option.bind_eq_some_iff.mp found with ⟨_, _, found⟩
  cases found
  rfl

theorem moveRecord?_ui {move : TokenMove} {program : Pubkey} {position : Position}
    {record : TransferRecord} (found : move.record? view program position = some record) :
    record.ui = Ui.value record.raw record.decimals := by
  unfold TokenMove.record? at found
  rcases Option.bind_eq_some_iff.mp found with ⟨_, _, found⟩
  rcases Option.bind_eq_some_iff.mp found with ⟨_, _, found⟩
  cases found
  rfl

theorem record?_ui {ix : Instruction} {position : Position} {record : TransferRecord}
    (found : c.record? view ix position = some record) :
    record.ui = Ui.value record.raw record.decimals := by
  unfold record? at found
  split at found
  · exact c.nativeRecord?_ui found
  · split at found
    · unfold tokenRecord? at found
      rcases Option.bind_eq_some_iff.mp found with ⟨_, _, found⟩
      rcases Option.bind_eq_some_iff.mp found with ⟨_, _, found⟩
      exact moveRecord?_ui view found
    · cases found

theorem record?_of_not_passthrough {ix : Instruction} (position : Position)
    (other : isPassthrough ix.program = false) : c.record? view ix position = none := by
  have notSystem : (ix.program == Programs.system) = false := by
    simp only [isPassthrough, Bool.or_eq_false_iff] at other
    exact other.1.1.2
  have notToken : Programs.isTokenProgram ix.program = false := by
    simp only [isPassthrough, Bool.or_eq_false_iff] at other
    exact other.1.1.1
  simp [record?, notSystem, notToken]

private theorem drop_zipIdx_eq_cons {inner : List Instruction} {start : Nat}
    {entry : Instruction × Nat} {later : List (Instruction × Nat)}
    (split : inner.zipIdx.drop start = entry :: later) :
    inner[start]? = some entry.1 ∧ entry.2 = start ∧ later = inner.zipIdx.drop (start + 1) := by
  have inside : start < inner.zipIdx.length := by
    apply Classical.byContradiction
    intro outside
    rw [List.drop_eq_nil_of_le (by omega)] at split
    cases split
  rw [List.drop_eq_getElem_cons inside, List.cons.injEq] at split
  obtain ⟨here, rfl⟩ := split
  have bound : start < inner.length := by simpa using inside
  rw [← here, List.getElem_zipIdx]
  simp [bound]

theorem correlateInner_drop (top : Instruction) (outer : Nat) :
    ∀ (rest : List (Instruction × Nat)) (start : Nat) (map : TransferMap),
      rest = (view.innerOf outer).zipIdx.drop start →
      c.correlateInner view outer (chargedTo view top outer start) rest map =
        map.pushAll (rest.filterMap (c.innerCharge view top outer)) := by
  intro rest
  -- the loop carries the key as it goes; `chargedTo_succ` says how it moves
  induction rest with
  | nil => intro start map _; rfl
  | cons entry later induction =>
      intro start map split
      obtain ⟨at_, index, rest⟩ := drop_zipIdx_eq_cons split.symm
      obtain ⟨ix, i⟩ := entry
      simp only at at_ index
      -- the entry is the inner instruction at `start`
      subst index
      have next := induction (i + 1)
      rw [chargedTo_succ view top at_] at next
      rw [correlateInner.eq_2, List.filterMap_cons]
      simp only [innerCharge]
      by_cases passthrough : isPassthrough ix.program
      · have kept : takesCharge ix = false := by simp [takesCharge, passthrough]
        simp only [kept, Bool.false_eq_true, if_false] at next
        simp only [passthrough, if_true]
        cases record : c.record? view ix ⟨outer, some i⟩ with
        | none => exact next map rest
        | some found => exact next _ rest
      · simp only [passthrough, Bool.false_eq_true, if_false]
        by_cases logged : Programs.isEventLog ix.data
        · have kept : takesCharge ix = false := by simp [takesCharge, logged]
          simp only [kept, Bool.false_eq_true, if_false] at next
          simp only [logged, if_true]
          exact next map rest
        · have taken : takesCharge ix = true := by simp [takesCharge, passthrough, logged]
          simp only [taken, if_true] at next
          simp only [logged, Bool.false_eq_true, if_false]
          exact next map rest

private theorem foldl_eq_pushAll {α : Type} (step : TransferMap → α → TransferMap)
    (pushes : α → List (TransferKey × TransferRecord))
    (each : ∀ map item, step map item = map.pushAll (pushes item)) :
    ∀ (items : List α) (start : TransferMap),
      items.foldl step start = start.pushAll (items.flatMap pushes) := by
  intro items
  induction items with
  | nil => intro start; rfl
  | cons item rest induction =>
      intro start
      rw [List.foldl_cons, List.flatMap_cons, TransferMap.pushAll_append, each, induction]

theorem correlate_eq_pushAll : c.correlate view = ({} : TransferMap).pushAll (c.charges view) := by
  unfold correlate charges
  apply foldl_eq_pushAll
  -- one outer instruction pushes its own movement, then those of its inner instructions
  intro map entry
  rcases entry with ⟨top, outer⟩
  have inner := c.correlateInner_drop view top outer (view.innerOf outer).zipIdx 0
  rw [chargedTo_zero] at inner
  dsimp only
  rw [inner _ (List.drop_zero).symm, chargesUnder, TransferMap.pushAll_append]
  cases c.record? view top ⟨outer, none⟩ <;> rfl

theorem charges_records :
    (c.charges view).map (·.2) =
      view.flat.filterMap fun located => c.record? view located.instruction located.position := by
  unfold charges View.flat
  rw [List.map_flatMap, List.filterMap_flatMap]
  apply List.flatMap_congr
  intro ⟨top, outer⟩ _
  -- an inner charge is the inner movement, since other programs move nothing
  have inner : ∀ entry : Instruction × Nat,
      (c.innerCharge view top outer entry).map (·.2) = c.record? view entry.1 ⟨outer, some entry.2⟩ := by
    intro entry
    unfold innerCharge
    cases passthrough : isPassthrough entry.1.program with
    | true => simp [Function.comp_def]
    | false => simp [c.record?_of_not_passthrough view _ passthrough]
  simp only [chargesUnder, List.map_append, List.map_filterMap, inner, List.filterMap_cons,
    List.filterMap_map]
  cases c.record? view top ⟨outer, none⟩ <;> simp

theorem records_pairwise_before :
    ((view.flat.filterMap fun located => c.record? view located.instruction located.position).map
      (·.position)).Pairwise Position.Before := by
  rw [List.pairwise_map]
  apply List.Pairwise.filterMap _ _ (List.pairwise_map.mp view.pairwise_before_flat)
  intro first second before record found other otherFound
  rw [c.record?_position view found, c.record?_position view otherFound]
  exact before

theorem get_correlate (program : Pubkey) (position : Position) :
    (c.correlate view).get program position =
      ((c.charges view).filter (·.1 == ⟨program, position⟩)).map (·.2) := by
  rw [correlate_eq_pushAll, TransferMap.get_pushAll]
  simp [TransferMap.get]

theorem correlate_wellFormed : (c.correlate view).WellFormed := by
  rw [correlate_eq_pushAll]
  exact TransferMap.WellFormed.empty.pushAll (c.charges view)

theorem records_correlate : (c.correlate view).records.Perm
    (view.flat.filterMap fun located => c.record? view located.instruction located.position) := by
  have pushed := TransferMap.records_pushAll TransferMap.WellFormed.empty (c.charges view)
  have empty : ({} : TransferMap).records = [] := rfl
  rw [charges_records, empty, List.nil_append, ← correlate_eq_pushAll] at pushed
  exact pushed

/-- How correlation groups the movements of a transaction. Each key's group is the movements
charged to it, in execution order, where an inner movement is charged to the latest earlier
inner instruction that takes charge, else to the outer instruction; there is one group per key
and no empty group; the groups hold every movement of the transaction exactly once, so the
map's size is the number of instructions that move a balance; each record carries the position
it was decoded at; and the positions within a group strictly increase. -/
structure Grouped (map : TransferMap) : Prop where
  get : ∀ program position, map.get program position =
    ((c.charges view).filter (·.1 == ⟨program, position⟩)).map (·.2)
  owner : ∀ top outer i,
    (∃ j < i, ∃ ix, (view.innerOf outer)[j]? = some ix ∧ takesCharge ix = true ∧
        Quiet view outer (j + 1) i ∧ chargedTo view top outer i = ⟨ix.program, ⟨outer, some j⟩⟩) ∨
      (Quiet view outer 0 i ∧ chargedTo view top outer i = ⟨top.program, ⟨outer, none⟩⟩)
  formed : map.WellFormed
  complete : map.records.Perm
    (view.flat.filterMap fun located => c.record? view located.instruction located.position)
  size : map.size =
    (view.flat.filter fun located => (c.record? view located.instruction located.position).isSome).length
  origin : ∀ group ∈ map.groups, ∀ record ∈ group.2, ∃ located ∈ view.flat,
    c.record? view located.instruction located.position = some record ∧
      record.position = located.position
  ordered : ∀ group ∈ map.groups, (group.2.map (·.position)).Pairwise Position.Before

theorem correlate_grouped : c.Grouped view (c.correlate view) := by
  have formed := c.correlate_wellFormed view
  have complete := c.records_correlate view
  refine ⟨c.get_correlate view, chargedTo_latest view, formed, complete, ?_, ?_, ?_⟩
  · rw [TransferMap.size_eq_length_records, complete.length_eq, List.length_filterMap_eq_countP,
      List.countP_eq_length_filter]
  · intro group member record inGroup
    have inRecords : record ∈ (c.correlate view).records :=
      List.mem_flatMap.mpr ⟨group, member, inGroup⟩
    obtain ⟨located, inFlat, found⟩ := List.mem_filterMap.mp (complete.subset inRecords)
    exact ⟨located, inFlat, found, c.record?_position view found⟩
  · intro group member
    -- a group is a sublist of all the movements, which are in execution order
    rw [← TransferMap.get_of_mem formed member, get_correlate]
    have sublist : List.Sublist
        (((c.charges view).filter (·.1 == ⟨group.1.program, group.1.position⟩)).map (·.2))
        ((c.charges view).map (·.2)) := List.filter_sublist.map _
    rw [charges_records] at sublist
    exact (c.records_pairwise_before view).sublist (sublist.map _)

theorem ui_of_mem_get {program : Pubkey} {position : Position} {record : TransferRecord}
    (member : record ∈ (c.correlate view).get program position) :
    record.ui = Ui.value record.raw record.decimals := by
  rw [get_correlate] at member
  obtain ⟨charge, charged, rfl⟩ := List.mem_map.mp member
  have decoded : charge.2 ∈
      view.flat.filterMap fun located => c.record? view located.instruction located.position := by
    rw [← charges_records]
    exact List.mem_map_of_mem (List.mem_of_mem_filter charged)
  obtain ⟨located, -, found⟩ := List.mem_filterMap.mp decoded
  exact c.record?_ui view found

end Correlator

end MemeEvents
