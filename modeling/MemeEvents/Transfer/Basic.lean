import MemeEvents.Token.Amount
import MemeEvents.Chain.Position

/-!
Balance movements of a transaction: token transfers, mints and burns and native lamport transfers,
each recorded under the instruction that caused it.
-/

namespace MemeEvents

inductive TransferKind where
  | transfer | transferChecked | mintTo | mintToChecked | burn | burnChecked | native
  deriving DecidableEq, Repr, Inhabited

namespace TransferKind

def all : List TransferKind :=
  [.transfer, .transferChecked, .mintTo, .mintToChecked, .burn, .burnChecked, .native]

def name : TransferKind → String
  | .transfer => "transfer"
  | .transferChecked => "transferChecked"
  | .mintTo => "mintTo"
  | .mintToChecked => "mintToChecked"
  | .burn => "burn"
  | .burnChecked => "burnChecked"
  | .native => "native"

def ofName? (text : String) : Option TransferKind := all.find? (·.name == text)

end TransferKind

structure TransferRecord where
  kind : TransferKind
  program : Pubkey
  mint : Pubkey
  source : Pubkey
  destination : Pubkey
  sourceOwner : Option Pubkey
  destinationOwner : Option Pubkey
  authority : Option Pubkey
  raw : Nat
  decimals : Nat
  ui : Binary64
  position : Position
  deriving DecidableEq, Inhabited

def TransferRecord.tokenAmount (record : TransferRecord) : TokenAmount :=
  TokenAmount.scaled record.mint record.raw record.decimals

def TransferRecord.isSol (record : TransferRecord) : Bool := record.mint == Programs.wrappedSol

/-- The instruction that caused a group of movements. -/
structure TransferKey where
  program : Pubkey
  position : Position
  deriving DecidableEq, Inhabited

def TransferKey.toText (k : TransferKey) : String := s!"{k.program}:{k.position}"

def TransferKey.reportLE (a b : TransferKey) : Bool :=
  let rank := fun (k : TransferKey) => match k.position.inner with
    | none => 0
    | some i => i + 1
  if a.position.outer != b.position.outer then a.position.outer < b.position.outer
  else if rank a != rank b then rank a < rank b
  else decide (a.program.toBase58 ≤ b.program.toBase58)

/-- Groups of records, in the order their keys first received a record. -/
structure TransferMap where
  groups : List (TransferKey × List TransferRecord) := []
  deriving Inhabited

namespace TransferMap

def get (map : TransferMap) (program : Pubkey) (position : Position) : List TransferRecord :=
  match map.groups.find? (·.1 == ⟨program, position⟩) with
  | some (_, records) => records
  | none => []

def push (map : TransferMap) (key : TransferKey) (record : TransferRecord) : TransferMap :=
  if map.groups.any (·.1 == key) then
    ⟨map.groups.map fun (k, records) => if k == key then (k, records ++ [record]) else (k, records)⟩
  else ⟨map.groups ++ [(key, [record])]⟩

def size (map : TransferMap) : Nat :=
  map.groups.foldl (fun total group => total + group.2.length) 0

def isEmpty (map : TransferMap) : Bool := map.groups.isEmpty

def reportGroups (map : TransferMap) : List (TransferKey × List TransferRecord) :=
  map.groups.mergeSort fun a b => a.1.reportLE b.1

end TransferMap

end MemeEvents
