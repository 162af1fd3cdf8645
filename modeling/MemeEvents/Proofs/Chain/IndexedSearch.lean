import MemeEvents.Chain.FlatIndex
import MemeEvents.Proofs.Chain.Order
import Mathlib.Data.List.Basic

/-! The indexed look-ups of a transaction against plain searches of its flat list. -/

namespace MemeEvents

/-! ### The flat list -/

namespace View

theorem mem_flat_iff (view : View) (located : Located) :
    located ∈ view.flat ↔ located.position.outer < view.instructions.length ∧
      view.instructionAt located.position.outer located.position.inner =
        some located.instruction := by
  rw [flat_eq_flatMap_block, List.mem_flatMap]
  constructor
  · rintro ⟨⟨top, outer⟩, entry, member⟩
    have listed : view.instructions[outer]? = some top := List.mem_zipIdx_iff_getElem?.mp entry
    have inside : outer < view.instructions.length := (List.getElem?_eq_some_iff.mp listed).1
    rcases List.mem_cons.mp member with rfl | member
    · exact ⟨inside, listed⟩
    · obtain ⟨⟨instruction, i⟩, entry, rfl⟩ := List.mem_map.mp member
      exact ⟨inside, List.mem_zipIdx_iff_getElem?.mp entry⟩
  · obtain ⟨instruction, outer, inner⟩ := located
    rintro ⟨inside, found⟩
    have listed : view.instructions[outer]? = some view.instructions[outer] :=
      List.getElem?_eq_getElem inside
    refine ⟨(view.instructions[outer], outer), List.mem_zipIdx_iff_getElem?.mpr listed, ?_⟩
    cases inner with
    | none =>
      -- the outer instruction itself heads its block
      have same : view.instructions[outer] = instruction := Option.some.inj (listed.symm.trans found)
      rw [same]
      exact List.mem_cons_self
    | some i =>
      apply List.mem_cons_of_mem
      exact List.mem_map.mpr ⟨(instruction, i), List.mem_zipIdx_iff_getElem?.mpr found, rfl⟩

theorem positions_flat_nodup (view : View) : (view.flat.map (·.position)).Nodup :=
  (pairwise_before_flat view).imp Position.Before.ne

end View

/-! ### Positions by program -/

private theorem map_fst_filter_zipIdx {α : Type} (items : List α) (keep : α → Bool) :
    (items.zipIdx.filter fun entry => keep entry.1).map (·.1) = items.filter keep := by
  have moved := @List.filter_map (α × Nat) α Prod.fst keep items.zipIdx
  rw [List.zipIdx_map_fst] at moved
  exact moved.symm

namespace ProgramPositions

def positionsOf (flat : List Located) (program : Pubkey) : List Nat :=
  (flat.zipIdx.filter (·.1.program == program)).map (·.2)

theorem filterMap_positionsOf (flat : List Located) (program : Pubkey) :
    (positionsOf flat program).filterMap (flat[·]?) = flat.filter (·.program == program) := by
  unfold positionsOf
  rw [List.filterMap_map]
  have readBack : ∀ entry ∈ flat.zipIdx.filter (·.1.program == program),
      ((flat[·]?) ∘ Prod.snd) entry = some entry.1 := fun entry member =>
    List.mem_zipIdx_iff_getElem?.mp (List.mem_filter.mp member).1
  rw [List.filterMap_congr readBack]
  exact (congrFun List.filterMap_eq_map _).trans
    (map_fst_filter_zipIdx flat (·.program == program))

theorem positionsOf_append_singleton (done : List Located) (located : Located)
    (program : Pubkey) :
    positionsOf (done ++ [located]) program =
      positionsOf done program ++ if located.program == program then [done.length] else [] := by
  unfold positionsOf
  rw [List.zipIdx_append, List.filter_append, List.map_append]
  cases same : located.program == program <;> simp [same]

theorem isEmpty_positionsOf_iff (done : List Located) (program : Pubkey) :
    (positionsOf done program).isEmpty ↔ ∀ located ∈ done, located.program ≠ program := by
  unfold positionsOf
  rw [List.isEmpty_iff, List.map_eq_nil_iff, ← @List.map_eq_nil_iff _ _ Prod.fst,
    map_fst_filter_zipIdx done (·.program == program), List.filter_eq_nil_iff]
  simp

theorem findIdx_lt_length_of_mem {done : List Located} {program : Pubkey}
    (present : ∃ located ∈ done, located.program = program) :
    done.findIdx (·.program == program) < done.length := by
  obtain ⟨located, member, named⟩ := present
  exact List.findIdx_lt_length.mpr ⟨located, member, by simp [named]⟩

theorem findIdx_append_of_mem {done : List Located} (more : List Located) {program : Pubkey}
    (present : ∃ located ∈ done, located.program = program) :
    (done ++ more).findIdx (·.program == program) = done.findIdx (·.program == program) := by
  rw [List.findIdx_append, if_pos (findIdx_lt_length_of_mem present)]

theorem findIdx_append_of_fresh {done : List Located} {located : Located}
    (fresh : ∀ other ∈ done, other.program ≠ located.program) :
    (done ++ [located]).findIdx (·.program == located.program) = done.length := by
  have absent : ∀ other ∈ done, (other.program == located.program) = false := by
    simpa using fresh
  rw [List.findIdx_append, if_neg (by rw [List.findIdx_eq_length.mpr absent]; omega)]
  simp

/-- The index holds, for each program, its positions in `done`, and the programs of `done` in
order of first appearance. -/
structure Describes (index : ProgramPositions) (done : List Located) : Prop where
  positions : ∀ program, (index.positions.get? program).getD [] = positionsOf done program
  mem_programs : ∀ program, program ∈ index.programs ↔ ∃ located ∈ done, located.program = program
  programs_ordered : index.programs.Pairwise fun first second =>
    done.findIdx (·.program == first) < done.findIdx (·.program == second)

theorem describes_empty : Describes {} [] where
  positions _ := rfl
  mem_programs _ := by simp
  programs_ordered := List.Pairwise.nil

theorem Describes.add {index : ProgramPositions} {done : List Located}
    (describes : Describes index done) (located : Located) :
    Describes (index.add (located, done.length)) (done ++ [located]) := by
  have held := describes.positions located.program
  -- the programs met so far keep where they first appeared
  have kept : ∀ program ∈ index.programs,
      (done ++ [located]).findIdx (·.program == program) = done.findIdx (·.program == program) :=
    fun program member => findIdx_append_of_mem [located] ((describes.mem_programs program).mp member)
  have stillOrdered : index.programs.Pairwise fun first second =>
      (done ++ [located]).findIdx (·.program == first) <
        (done ++ [located]).findIdx (·.program == second) :=
    describes.programs_ordered.imp_of_mem fun firstMember secondMember less => by
      rwa [kept _ firstMember, kept _ secondMember]
  unfold ProgramPositions.add
  dsimp only
  rw [held]
  constructor
  · intro program
    rw [KeyTable.get?_insert, positionsOf_append_singleton]
    cases same : located.program == program with
    | true =>
      rw [← eq_of_beq same]
      rfl
    | false => simp [describes.positions program]
  · intro program
    dsimp only
    by_cases fresh : (positionsOf done located.program).isEmpty
    · rw [if_pos fresh, List.mem_append, describes.mem_programs, List.mem_singleton]
      grind
    · -- the program is not new, so it was met before
      obtain ⟨earlier, member, named⟩ : ∃ earlier ∈ done, earlier.program = located.program := by
        simpa using (not_congr (isEmpty_positionsOf_iff done located.program)).mp fresh
      rw [if_neg fresh, describes.mem_programs]
      grind
  · by_cases fresh : (positionsOf done located.program).isEmpty
    · rw [if_pos fresh, List.pairwise_append]
      refine ⟨stillOrdered, List.pairwise_singleton _ _, ?_⟩
      -- a new program first appears at the end, after every program already met
      intro program member newest newMember
      rw [List.mem_singleton.mp newMember,
        findIdx_append_of_fresh ((isEmpty_positionsOf_iff done located.program).mp fresh),
        kept program member]
      exact findIdx_lt_length_of_mem ((describes.mem_programs program).mp member)
    · rw [if_neg fresh]
      exact stillOrdered

theorem describes_foldl (rest : List Located) :
    ∀ (index : ProgramPositions) (done : List Located), Describes index done →
      Describes ((rest.zipIdx done.length).foldl ProgramPositions.add index) (done ++ rest) := by
  induction rest with
  | nil =>
    intro index done describes
    simpa using describes
  | cons located rest induction =>
    intro index done describes
    have further := induction _ _ (describes.add located)
    rw [List.length_append, List.length_singleton, List.append_assoc, List.singleton_append]
      at further
    rw [List.zipIdx_cons, List.foldl_cons]
    exact further

theorem describes_ofList (flat : List Located) : Describes (ofList flat) flat :=
  describes_foldl flat {} [] describes_empty

end ProgramPositions

/-! ### The queries -/

namespace View

theorem innerFrom_eq_cons (view : View) {outer start : Nat} {instruction : Instruction}
    (present : (view.innerOf outer)[start]? = some instruction) :
    view.innerFrom outer start =
      ⟨instruction, ⟨outer, some start⟩⟩ :: view.innerFrom outer (start + 1) := by
  obtain ⟨inside, rfl⟩ := List.getElem?_eq_some_iff.mp present
  have bound : start < ((view.innerOf outer).zipIdx).length := by
    rw [List.length_zipIdx]
    exact inside
  unfold innerFrom
  rw [List.drop_eq_getElem_cons bound, List.map_cons, List.getElem_zipIdx, Nat.zero_add]

theorem innerFrom_eq_nil (view : View) {outer start : Nat}
    (absent : (view.innerOf outer)[start]? = none) : view.innerFrom outer start = [] := by
  have past : ((view.innerOf outer).zipIdx).length ≤ start := by
    rw [List.length_zipIdx]
    exact List.getElem?_eq_none_iff.mp absent
  unfold innerFrom
  rw [List.drop_eq_nil_of_le past, List.map_nil]

end View

namespace FlatIndex

theorem instructionsFor_ofView (view : View) (program : Pubkey) :
    (ofView view).instructionsFor program = view.flat.filter (·.program == program) := by
  unfold instructionsFor ofView
  dsimp only
  rw [(ProgramPositions.describes_ofList view.flat).positions program]
  exact ProgramPositions.filterMap_positionsOf view.flat program

theorem findByPrefix_eq_find? (index : FlatIndex) (program : Option Pubkey)
    (prefix_ : List UInt8) (outer : Option Nat) :
    index.findByPrefix program prefix_ outer = index.all.find? fun located =>
      program.all (· == located.program) && outer.all (· == located.position.outer) &&
        located.startsWith prefix_ := by
  unfold findByPrefix
  rw [List.find?_filter, List.find?_filter]
  congr 1
  funext located
  simp [Bool.and_assoc]

theorem findInnerAfter_eq_find? (index : FlatIndex) (after : Located)
    (predicate : Located → Bool) :
    index.findInnerAfter after predicate =
      (index.view.innerFrom after.position.outer after.position.following).find? predicate := by
  fun_induction index.findInnerAfter after predicate with
  | case1 after found =>
    have absent : (index.view.innerOf after.position.outer)[after.position.following]? = none :=
      Option.map_eq_none_iff.mp found
    rw [index.view.innerFrom_eq_nil absent]
    rfl
  | case2 after next found accepted =>
    obtain ⟨instruction, present, rfl⟩ := Option.map_eq_some_iff.mp found
    rw [index.view.innerFrom_eq_cons present, List.find?_cons_of_pos accepted]
  | case3 after next found refused induction =>
    obtain ⟨instruction, present, rfl⟩ := Option.map_eq_some_iff.mp found
    rw [index.view.innerFrom_eq_cons present, List.find?_cons_of_neg refused, induction]
    rfl

theorem siblingBefore_eq_find? (outer : Nat) (siblings : List Instruction) (program : Pubkey)
    (count : Nat) :
    siblingBefore outer siblings program count =
      ((siblings.zipIdx.take count).reverse.find? (·.1.program == program)).map
        fun entry => ⟨entry.1, ⟨outer, some entry.2⟩⟩ := by
  induction count with
  | zero => rfl
  | succ j induction =>
    rw [siblingBefore, List.take_add_one, List.getElem?_zipIdx, List.reverse_append]
    cases present : siblings[j]? with
    | none => simp [induction]
    | some instruction =>
      cases same : instruction.program == program <;> simp [same, induction]

theorem parentOf_eq (index : FlatIndex) (child : Located) (program : Pubkey) :
    index.parentOf child program = index.view.parentOf child program := by
  obtain ⟨instruction, outer, inner⟩ := child
  cases inner with
  | none => rfl
  | some inner =>
    unfold parentOf View.parentOf
    dsimp only [Option.bind_eq_bind, Option.bind_some]
    rw [siblingBefore_eq_find?]
    cases ((index.view.innerOf outer).zipIdx.take inner).reverse.find? (·.1.program == program) with
    | none => rfl
    | some entry => rfl

structure AnswersAsLists (index : FlatIndex) : Prop where
  /-- The flat list holds the instruction at every position of the transaction whose outer
  index names an outer instruction, and nothing else. -/
  mem_all : ∀ located, located ∈ index.all ↔
    located.position.outer < index.view.instructions.length ∧
      index.view.instructionAt located.position.outer located.position.inner =
        some located.instruction
  positions_nodup : (index.all.map (·.position)).Nodup
  ordered : (index.all.map (·.position)).Pairwise Position.Before
  instructionsFor : ∀ program,
    index.instructionsFor program = index.all.filter (·.program == program)
  instructionsForAny : ∀ programs,
    index.instructionsForAny programs = index.all.filter (programs.contains ·.program)
  mem_programIds : ∀ program,
    program ∈ index.programIds ↔ ∃ located ∈ index.all, located.program = program
  programIds_ordered : index.programIds.Pairwise fun first second =>
    index.all.findIdx (·.program == first) < index.all.findIdx (·.program == second)
  findByPrefix : ∀ program prefix_ outer, index.findByPrefix program prefix_ outer =
    index.all.find? fun located =>
      program.all (· == located.program) && outer.all (· == located.position.outer) &&
        located.startsWith prefix_
  nextInner : ∀ after, index.nextInner after =
    (index.view.instructionAt after.position.outer (some after.position.following)).map
      fun instruction => ⟨instruction, ⟨after.position.outer, some after.position.following⟩⟩
  findInnerAfter : ∀ after predicate,
    index.findInnerAfter after predicate = index.view.findInnerAfter after predicate
  parentOf : ∀ child program, index.parentOf child program = index.view.parentOf child program

/-- The index of a transaction answers every query as a search of its flat list: the list is
every instruction once, in execution order; a program's instructions and the programs in order
of first appearance are read off the one pass; and the sibling walk and the parent scan agree
with the searches the decoders use. -/
theorem ofView_answersAsLists (view : View) : (ofView view).AnswersAsLists where
  mem_all := view.mem_flat_iff
  positions_nodup := view.positions_flat_nodup
  ordered := view.pairwise_before_flat
  instructionsFor := instructionsFor_ofView view
  instructionsForAny _ := rfl
  mem_programIds := (ProgramPositions.describes_ofList view.flat).mem_programs
  programIds_ordered := (ProgramPositions.describes_ofList view.flat).programs_ordered
  findByPrefix := findByPrefix_eq_find? (ofView view)
  nextInner _ := rfl
  findInnerAfter := findInnerAfter_eq_find? (ofView view)
  parentOf := parentOf_eq (ofView view)

end FlatIndex

end MemeEvents
