import MemeEvents.Number.IntegerText

/-!
The position of an instruction in a transaction's execution tree: the index of its outer instruction
and, for an instruction invoked from it, its index among that outer instruction's inner
instructions.
-/

namespace MemeEvents

structure Position where
  outer : Nat
  inner : Option Nat := none
  deriving DecidableEq, Repr, Inhabited

namespace Position

def toText (position : Position) : String :=
  match position.inner with
  | some inner => s!"{position.outer}-{inner}"
  | none => toString position.outer

instance : ToString Position := ⟨toText⟩

/-- The index among the inner instructions that comes after this position: the first inner
instruction after an outer instruction, the next sibling after an inner one. -/
def following (position : Position) : Nat :=
  (position.inner.map (· + 1)).getD 0

def sortKey (position : Position) : Nat × Nat :=
  (position.outer, position.inner.getD 0)

def keyLE (a b : Position) : Bool :=
  a.outer < b.outer ∨ (a.outer = b.outer ∧ a.inner.getD 0 ≤ b.inner.getD 0)

def parse (text : String) : Except IntegerText.Error Position :=
  let chars := text.toList
  match chars.span (· ≠ '-') with
  | (outer, []) => do
    let o ← IntegerText.parseUnsigned 32 (String.ofList outer)
    pure ⟨o, none⟩
  | (outer, _ :: inner) => do
    let o ← IntegerText.parseUnsigned 32 (String.ofList outer)
    let i ← IntegerText.parseUnsigned 32 (String.ofList inner)
    pure ⟨o, some i⟩

end Position

end MemeEvents
