import Mathlib.Data.List.Basic
import MemeEvents.Proofs.Transfer.Grouping

/-! Which kinds of movement correlation records. -/

namespace MemeEvents

namespace Correlator

def everyKind : Correlator := ⟨TransferKind.all⟩

theorem everyKind_accepts (kind : TransferKind) : everyKind.accepts kind = true := by
  cases kind <;> rfl

theorem accepts_withExtra (extra : List TransferKind) (kind : TransferKind) :
    (withExtra extra).accepts kind = (({} : Correlator).accepts kind || extra.contains kind) := by
  -- an extra kind is appended unless already present, which changes no membership
  have grown : ∀ (more start : List TransferKind),
      kind ∈ more.foldl (fun kinds k => if kinds.contains k then kinds else kinds ++ [k]) start ↔
        kind ∈ start ∨ kind ∈ more := by
    intro more
    induction more with
    | nil => simp
    | cons k rest induction =>
        intro start
        rw [List.foldl_cons, induction, List.mem_cons]
        by_cases present : start.contains k = true
        · have member : k ∈ start := List.contains_iff_mem.mp present
          rw [if_pos present]
          constructor
          · rintro (here | later)
            · exact Or.inl here
            · exact Or.inr (Or.inr later)
          · rintro (here | rfl | later)
            · exact Or.inl here
            · exact Or.inl member
            · exact Or.inr later
        · rw [if_neg present, List.mem_append, List.mem_singleton, or_assoc]
  unfold accepts withExtra
  rw [Bool.eq_iff_iff, Bool.or_eq_true, List.contains_iff_mem, List.contains_iff_mem,
    List.contains_iff_mem]
  exact grown extra _

private theorem option_filter_of_all {α : Type} {value : Option α} {keep : α → Bool}
    (all : ∀ a, value = some a → keep a = true) : value.filter keep = value := by
  cases value with
  | none => rfl
  | some a => simp [Option.filter_some, all a rfl]

private theorem option_filter_of_none {α : Type} {value : Option α} {keep : α → Bool}
    (none_ : ∀ a, value = some a → keep a = false) : value.filter keep = none := by
  rw [Option.filter_eq_none_iff]
  intro a found
  simp [none_ a found]

/-! Decoding one movement: what a correlator records is what the correlator of every kind
records, when its kind is accepted. -/

theorem nativeRecord?_filter (c : Correlator) (ix : Instruction) (position : Position) :
    c.nativeRecord? ix position =
      (everyKind.nativeRecord? ix position).filter fun record => c.accepts record.kind := by
  have native : ∀ record, everyKind.nativeRecord? ix position = some record →
      record.kind = .native := fun record found => (everyKind.nativeRecord?_fields found).1
  cases accepted : c.accepts .native with
  | true =>
      have same : c.nativeRecord? ix position = everyKind.nativeRecord? ix position := by
        unfold nativeRecord?
        rw [accepted, everyKind_accepts]
      rw [same, option_filter_of_all]
      intro record found
      rw [native record found, accepted]
  | false =>
      have refused : c.nativeRecord? ix position = none := by
        unfold nativeRecord?
        rw [accepted]
        rfl
      rw [refused, option_filter_of_none]
      intro record found
      rw [native record found, accepted]

theorem tokenRecord?_filter (c : Correlator) (view : View) (ix : Instruction)
    (position : Position) :
    c.tokenRecord? view ix position =
      (everyKind.tokenRecord? view ix position).filter fun record => c.accepts record.kind := by
  unfold tokenRecord?
  cases TokenMove.ofInstruction? ix with
  | none => rfl
  | some move =>
      -- past the kind check, both resolve the same movement, whose kind the record keeps
      have kind : ∀ record, move.record? view ix.program position = some record →
          record.kind = move.kind := fun record found => (moveRecord?_fields view found).1
      dsimp only [Option.bind_eq_bind, Option.bind_some]
      rw [everyKind_accepts]
      cases accepted : c.accepts move.kind with
      | true =>
          rw [option_filter_of_all]
          intro record found
          rw [kind record found, accepted]
      | false =>
          rw [option_filter_of_none]
          · rfl
          · intro record found
            rw [kind record found, accepted]

theorem record?_filter (c : Correlator) (view : View) (ix : Instruction) (position : Position) :
    c.record? view ix position =
      (everyKind.record? view ix position).filter fun record => c.accepts record.kind := by
  unfold record?
  split
  · exact c.nativeRecord?_filter ix position
  · split
    · exact c.tokenRecord?_filter view ix position
    · rfl

/-! The charged movements: the key of a movement does not depend on the correlator. -/

theorem innerCharge_filter (c : Correlator) (view : View) (top : Instruction) (outer : Nat)
    (entry : Instruction × Nat) :
    c.innerCharge view top outer entry =
      (everyKind.innerCharge view top outer entry).filter fun charge => c.accepts charge.2.kind := by
  unfold innerCharge
  split
  · rw [c.record?_filter, Option.filter_map]
    rfl
  · rfl

theorem chargesUnder_filter (c : Correlator) (view : View) (top : Instruction) (outer : Nat) :
    c.chargesUnder view top outer =
      (everyKind.chargesUnder view top outer).filter fun charge => c.accepts charge.2.kind := by
  unfold chargesUnder
  rw [List.filter_append, List.filter_filterMap, c.record?_filter]
  congr 1
  · rw [← Option.toList_filter, Option.filter_map]
    rfl
  · apply List.filterMap_congr
    intro entry _
    exact c.innerCharge_filter view top outer entry

theorem charges_filter (c : Correlator) (view : View) :
    c.charges view = (everyKind.charges view).filter fun charge => c.accepts charge.2.kind := by
  unfold charges
  rw [List.filter_flatMap]
  apply List.flatMap_congr
  intro entry _
  exact c.chargesUnder_filter view entry.1 entry.2

theorem get_correlate_filter (c : Correlator) (view : View) (program : Pubkey)
    (position : Position) :
    (c.correlate view).get program position =
      ((everyKind.correlate view).get program position).filter fun record =>
        c.accepts record.kind := by
  rw [c.get_correlate, everyKind.get_correlate, c.charges_filter, List.filter_comm,
    List.filter_map]
  rfl

theorem correlate_congr {c d : Correlator} (same : ∀ kind, c.accepts kind = d.accepts kind)
    (view : View) : c.correlate view = d.correlate view := by
  rw [c.correlate_eq_pushAll, d.correlate_eq_pushAll, c.charges_filter, d.charges_filter]
  simp only [same]

/-- How the kinds asked for shape correlation. Each group holds the movements that the
correlator of every kind groups under its key, less those of kinds not asked for, the asked
ones being the default kinds and the extra ones; a key has a group exactly when that leaves a
movement in it. Asking for more kinds only adds records to groups. Only which kinds are asked for
matters, not their order or repetition, and a parse that takes the default correlator when no
extra kind is asked for makes the same map as the extended one. -/
structure KindFiltered (extra : List TransferKind) (view : View) : Prop where
  get : ∀ program position,
    ((withExtra extra).correlate view).get program position =
      ((everyKind.correlate view).get program position).filter fun record =>
        ({} : Correlator).accepts record.kind || extra.contains record.kind
  keys : ∀ key, key ∈ ((withExtra extra).correlate view).groups.map (·.1) ↔
    (((everyKind.correlate view).get key.program key.position).filter fun record =>
      ({} : Correlator).accepts record.kind || extra.contains record.kind) ≠ []
  more : ∀ larger : List TransferKind, (∀ kind ∈ extra, kind ∈ larger) →
    ∀ program position, (((withExtra extra).correlate view).get program position).Sublist
      (((withExtra larger).correlate view).get program position)
  sameKinds : ∀ other : List TransferKind, (∀ kind, kind ∈ extra ↔ kind ∈ other) →
    (withExtra other).correlate view = (withExtra extra).correlate view
  choice : (if extra.isEmpty then ({} : Correlator) else withExtra extra).correlate view =
    (withExtra extra).correlate view

theorem withExtra_correlate_filtered (extra : List TransferKind) (view : View) :
    KindFiltered extra view := by
  have get : ∀ program position,
      ((withExtra extra).correlate view).get program position =
        ((everyKind.correlate view).get program position).filter fun record =>
          ({} : Correlator).accepts record.kind || extra.contains record.kind := by
    intro program position
    rw [get_correlate_filter]
    simp only [accepts_withExtra]
  refine ⟨get, ?_, ?_, ?_, ?_⟩
  · intro key
    rw [TransferMap.mem_keys_iff ((withExtra extra).correlate_wellFormed view), get]
  · intro larger contained program position
    rw [get_correlate_filter (withExtra extra) view program position,
      get_correlate_filter (withExtra larger) view program position]
    apply List.monotone_filter_right
    intro record accepted
    rw [accepts_withExtra] at accepted ⊢
    rcases Bool.or_eq_true_iff.mp accepted with default | named
    · simp [default]
    · simp [contained record.kind (List.contains_iff_mem.mp named)]
  · intro other same
    apply correlate_congr
    intro kind
    rw [accepts_withExtra, accepts_withExtra]
    simp [same kind]
  · rw [withExtra_of_isEmpty]

end Correlator

end MemeEvents
