import MemeEvents.Chain.Flat
import MemeEvents.Chain.Index

/-! The instructions of a transaction indexed for look-up. -/

namespace MemeEvents

/-- Where each program's instructions stand in a list, and the programs in order of first
appearance. -/
structure ProgramPositions where
  positions : KeyTable Pubkey (List Nat) := {}
  programs : List Pubkey := []

namespace ProgramPositions

def add (index : ProgramPositions) (entry : Located × Nat) : ProgramPositions :=
  let held := (index.positions.get? entry.1.program).getD []
  { positions := index.positions.insert entry.1.program (held ++ [entry.2])
    programs := if held.isEmpty then index.programs ++ [entry.1.program] else index.programs }

def ofList (flat : List Located) : ProgramPositions :=
  flat.zipIdx.foldl add {}

end ProgramPositions

/-- A transaction with its flat list of instructions and the programs' positions in it. -/
structure FlatIndex where
  view : View
  /-- Every instruction in execution order. -/
  all : List Located
  byProgram : ProgramPositions

namespace FlatIndex

def ofView (view : View) : FlatIndex :=
  { view, all := view.flat, byProgram := .ofList view.flat }

def programIds (index : FlatIndex) : List Pubkey :=
  index.byProgram.programs

def instructionsFor (index : FlatIndex) (program : Pubkey) : List Located :=
  ((index.byProgram.positions.get? program).getD []).filterMap (index.all[·]?)

def instructionsForAny (index : FlatIndex) (programs : List Pubkey) : List Located :=
  index.all.filter fun located => programs.contains located.program

def findByPrefix (index : FlatIndex) (program : Option Pubkey) (prefix_ : List UInt8)
    (outer : Option Nat) : Option Located :=
  ((index.all.filter fun located => program.all (· == located.program)).filter
      fun located => outer.all (· == located.position.outer)).find? (·.startsWith prefix_)

def nextInner (index : FlatIndex) (after : Located) : Option Located :=
  (index.view.innerOf after.position.outer)[after.position.following]?.map fun instruction =>
    ⟨instruction, ⟨after.position.outer, some after.position.following⟩⟩

theorem nextInner_advances {index : FlatIndex} {after next : Located}
    (found : index.nextInner after = some next) :
    next.position.outer = after.position.outer ∧
      next.position.following = after.position.following + 1 ∧
      after.position.following < (index.view.innerOf after.position.outer).length := by
  unfold nextInner at found
  cases present : (index.view.innerOf after.position.outer)[after.position.following]? with
  | none =>
    rw [present] at found
    cases found
  | some instruction =>
    rw [present] at found
    cases found
    obtain ⟨inside, _⟩ := List.getElem?_eq_some_iff.mp present
    exact ⟨rfl, rfl, inside⟩

-- `found` is read only by the termination proof, which the linter does not see
set_option linter.unusedVariables false in
def findInnerAfter (index : FlatIndex) (after : Located) (predicate : Located → Bool) :
    Option Located :=
  match found : index.nextInner after with
  | none => none
  | some next => if predicate next then some next else index.findInnerAfter next predicate
termination_by (index.view.innerOf after.position.outer).length - after.position.following
decreasing_by
  obtain ⟨same, advanced, inside⟩ := nextInner_advances found
  rw [same, advanced]
  omega

def siblingBefore (outer : Nat) (siblings : List Instruction) (program : Pubkey) :
    (count : Nat) → Option Located
  | 0 => none
  | j + 1 =>
    match siblings[j]? with
    | some instruction =>
      if instruction.program == program then some ⟨instruction, ⟨outer, some j⟩⟩
      else siblingBefore outer siblings program j
    | none => siblingBefore outer siblings program j

def parentOf (index : FlatIndex) (child : Located) (program : Pubkey) : Option Located := do
  let inner ← child.position.inner
  let outer := child.position.outer
  match siblingBefore outer (index.view.innerOf outer) program inner with
  | some parent => some parent
  | none => do
    let top ← index.view.instructions[outer]?
    if top.program == program then some ⟨top, ⟨outer, none⟩⟩ else none

end FlatIndex

end MemeEvents
