import MemeEvents.Chain.Flat

/-!
The execution order of a transaction's instructions. An outer instruction runs before the inner
instructions it invokes, these run in order, and all of them before the next outer instruction.
-/

namespace MemeEvents

namespace Position

/-- The place of an instruction under its outer instruction: the outer instruction itself
first, then its inner instructions in order. -/
def step (position : Position) : Nat :=
  match position.inner with
  | none => 0
  | some inner => inner + 1

def Before (first second : Position) : Prop :=
  first.outer < second.outer ∨ (first.outer = second.outer ∧ first.step < second.step)

theorem Before.ne {first second : Position} (before : first.Before second) : first ≠ second := by
  rintro rfl
  rcases before with less | ⟨_, less⟩ <;> omega

theorem keyLE_of_before {first second : Position} (before : first.Before second) :
    keyLE first second = true := by
  simp only [keyLE, decide_eq_true_eq]
  rcases before with less | ⟨same, less⟩
  · exact Or.inl less
  · refine Or.inr ⟨same, ?_⟩
    cases firstInner : first.inner <;> cases secondInner : second.inner <;>
      simp_all [step]
    omega

end Position

private theorem pairwise_zipIdx_lt {α : Type} (values : List α) (start : Nat) :
    (values.zipIdx start).Pairwise fun first second => first.2 < second.2 := by
  have increasing := List.pairwise_lt_range' (s := start) (n := values.length)
  rw [← List.zipIdx_map_snd] at increasing
  exact List.pairwise_map.mp increasing

namespace View

def block (view : View) (top : Instruction) (outer : Nat) : List Located :=
  ⟨top, ⟨outer, none⟩⟩ :: (view.innerOf outer).zipIdx.map fun entry => ⟨entry.1, ⟨outer, some entry.2⟩⟩

theorem flat_eq_flatMap_block (view : View) :
    view.flat = view.instructions.zipIdx.flatMap fun entry => view.block entry.1 entry.2 := rfl

theorem outer_of_mem_block {view : View} {top : Instruction} {outer : Nat} {located : Located}
    (member : located ∈ view.block top outer) : located.position.outer = outer := by
  rcases List.mem_cons.mp member with here | inner
  · rw [here]
  · rcases List.mem_map.mp inner with ⟨entry, _, built⟩
    rw [← built]

private theorem pairwise_before_block (view : View) (top : Instruction) (outer : Nat) :
    (view.block top outer).Pairwise fun first second => first.position.Before second.position := by
  rw [block, List.pairwise_cons]
  constructor
  · intro located member
    obtain ⟨⟨inner, i⟩, -, rfl⟩ := List.mem_map.mp member
    exact Or.inr ⟨rfl, by simp [Position.step]⟩
  · rw [List.pairwise_map]
    apply (pairwise_zipIdx_lt (view.innerOf outer) 0).imp
    intro first second less
    exact Or.inr ⟨rfl, by simpa [Position.step] using less⟩

theorem pairwise_before_flat (view : View) :
    (view.flat.map (·.position)).Pairwise Position.Before := by
  rw [List.pairwise_map, flat_eq_flatMap_block]
  apply List.pairwise_flatMap.mpr
  refine ⟨fun entry _ => view.pairwise_before_block entry.1 entry.2, ?_⟩
  -- across blocks, the order is that of the outer indices
  apply (pairwise_zipIdx_lt view.instructions 0).imp
  intro firstEntry secondEntry less first firstMember second secondMember
  apply Or.inl
  rw [outer_of_mem_block firstMember, outer_of_mem_block secondMember]
  exact less

end View

end MemeEvents
