import MemeEvents.Event.Basic
import MemeEvents.Transfer.Basic

/-!
What a parse looks at and what it keeps. Programs are admitted unless ignored, and, when an allow
list is given, only if listed; ignoring wins over allowing.
-/

namespace MemeEvents

structure KindFilter where
  includeOnly : Option (List EventKind) := none
  exclude : Option (List EventKind) := none
  deriving DecidableEq, Inhabited

def KindFilter.admits (filter : KindFilter) (kind : EventKind) : Bool :=
  match filter.includeOnly, filter.exclude with
  | some included, _ => included.contains kind
  | none, some excluded => !excluded.contains kind
  | none, none => true

structure Config where
  programs : Option (List Pubkey) := none
  ignoredPrograms : Option (List Pubkey) := none
  filter : Option KindFilter := none
  extraKinds : List TransferKind := []
  emitTrades : Bool := true
  deriving DecidableEq, Inhabited

namespace Config

def admitsProgram (config : Config) (program : Pubkey) : Bool :=
  if (config.ignoredPrograms.map (·.contains program)).getD false then false
  else match config.programs with
    | some allowed => allowed.contains program
    | none => true

def admitsKind (config : Config) (kind : EventKind) : Bool :=
  (config.filter.map (·.admits kind)).getD true

theorem admitsProgram_of_ignored (config : Config) (program : Pubkey) (ignored : List Pubkey)
    (set : config.ignoredPrograms = some ignored) (listed : program ∈ ignored) :
    config.admitsProgram program = false := by
  simp [admitsProgram, set, listed]

end Config

end MemeEvents
