import MemeEvents.Chain.View
import MemeEvents.Chain.Position

/-!
The instructions of a transaction in execution order: each outer instruction followed by the inner
instructions it invoked, each tagged with its position.
-/

namespace MemeEvents

/-- An instruction with its position in the execution tree. -/
structure Located where
  instruction : Instruction
  position : Position
  deriving Inhabited

namespace Located

def program (located : Located) : Pubkey := located.instruction.program

def data (located : Located) : List UInt8 := located.instruction.data

def accounts (located : Located) : List Pubkey := located.instruction.accounts

def startsWith (located : Located) (prefix_ : List UInt8) : Bool :=
  prefix_.isPrefixOf located.data

end Located

namespace View

def flat (view : View) : List Located :=
  view.instructions.zipIdx.flatMap fun (ix, outer) =>
    ⟨ix, ⟨outer, none⟩⟩ :: (view.innerOf outer).zipIdx.map fun (inner, i) => ⟨inner, ⟨outer, some i⟩⟩

def findByPrefix (view : View) (program : Option Pubkey) (prefix_ : List UInt8)
    (outer : Option Nat) : Option Located :=
  view.flat.find? fun located =>
    (program.all (· == located.program)) && (outer.all (· == located.position.outer)) &&
      located.startsWith prefix_

def innerFrom (view : View) (outer start : Nat) : List Located :=
  ((view.innerOf outer).zipIdx.drop start).map fun (ix, i) => ⟨ix, ⟨outer, some i⟩⟩

def findInnerAfter (view : View) (after : Located) (predicate : Located → Bool) : Option Located :=
  (view.innerFrom after.position.outer ((after.position.inner.map (· + 1)).getD 0)).find? predicate

def parentOf (view : View) (child : Located) (program : Pubkey) : Option Located := do
  let inner ← child.position.inner
  let outer := child.position.outer
  let earlier := ((view.innerOf outer).zipIdx.take inner).reverse
  match earlier.find? (·.1.program == program) with
  | some (ix, j) => some ⟨ix, ⟨outer, some j⟩⟩
  | none => do
    let top ← view.instructions[outer]?
    if top.program == program then some ⟨top, ⟨outer, none⟩⟩ else none

end View

end MemeEvents
