import MemeEvents.Parse.Config
import MemeEvents.Json.Expect

/-!
A parse configuration written as JSON. Every field may be left out and then takes its default;
fields not named here are skipped, and a field named twice is a fault.
-/

namespace MemeEvents.ConfigText

open Json

def eventKind : Scan EventKind := do
  let index ← variant (EventKind.all.map (·.name))
  return EventKind.all.getD index .create

def transferKind : Scan TransferKind := do
  let index ← variant (TransferKind.all.map (·.name))
  return TransferKind.all.getD index .transfer

def address : Scan Pubkey := do
  let bytes ← tuple 32 Json.byte
  return (Pubkey.ofBytes? bytes).getD Pubkey.zero

def addresses : Scan (Option (List Pubkey)) := optional (list address)

def eventKinds : Scan (Option (List EventKind)) := optional (list eventKind)

def filterName : String := "struct EventTypeFilter"

def filterItems : Scan KindFilter := do
  let includeOnly ← match ← nextItem true eventKinds with
    | some value => pure value
    | none => custom (invalidLength 0 s!"{filterName} with 2 elements")
  let exclude ← match ← nextItem false eventKinds with
    | some value => pure value
    | none => custom (invalidLength 1 s!"{filterName} with 2 elements")
  return ⟨includeOnly, exclude⟩

def setOnce {α : Type} (name : String) (current : Option α) (read : Scan α) : Scan (Option α) := do
  if current.isSome then custom (duplicateField name)
  colon
  return some (← read)

def filterFields : Nat → Bool → Option (Option (List EventKind)) →
    Option (Option (List EventKind)) → Scan KindFilter
  | 0, _, includeOnly, exclude => pure ⟨includeOnly.getD none, exclude.getD none⟩
  | fuel + 1, first, includeOnly, exclude => do
    match ← nextKey first with
    | none => pure ⟨includeOnly.getD none, exclude.getD none⟩
    | some "include_only" =>
      filterFields fuel false (← setOnce "include_only" includeOnly eventKinds) exclude
    | some "exclude_types" =>
      filterFields fuel false includeOnly (← setOnce "exclude_types" exclude eventKinds)
    | some _ => do colon; skipValue; filterFields fuel false includeOnly exclude

def filter : Scan KindFilter := do
  let fuel := (← get).bytes.size + 1
  record filterName filterItems (filterFields fuel true none none)

/-- The fields of a configuration as an object reads them: each set at most once. -/
structure Fields where
  programs : Option (Option (List Pubkey)) := none
  ignoredPrograms : Option (Option (List Pubkey)) := none
  filter : Option (Option KindFilter) := none
  extraKinds : Option (List TransferKind) := none
  emitTrades : Option Bool := none

def Fields.config (fields : Fields) : Config :=
  let default : Config := {}
  { programs := fields.programs.getD default.programs
    ignoredPrograms := fields.ignoredPrograms.getD default.ignoredPrograms
    filter := fields.filter.getD default.filter
    extraKinds := fields.extraKinds.getD default.extraKinds
    emitTrades := fields.emitTrades.getD default.emitTrades }

def configFields : Nat → Bool → Fields → Scan Config
  | 0, _, fields => pure fields.config
  | fuel + 1, first, fields => do
    match ← nextKey first with
    | none => pure fields.config
    | some "program_ids" =>
      configFields fuel false { fields with programs := ← setOnce "program_ids" fields.programs addresses }
    | some "ignore_program_ids" =>
      configFields fuel false
        { fields with ignoredPrograms := ← setOnce "ignore_program_ids" fields.ignoredPrograms addresses }
    | some "event_filter" =>
      configFields fuel false { fields with filter := ← setOnce "event_filter" fields.filter (optional filter) }
    | some "extra_transfer_kinds" =>
      configFields fuel false
        { fields with extraKinds := ← setOnce "extra_transfer_kinds" fields.extraKinds (list transferKind) }
    | some "emit_trades" =>
      configFields fuel false { fields with emitTrades := ← setOnce "emit_trades" fields.emitTrades bool }
    | some _ => do colon; skipValue; configFields fuel false fields

def configItems : Scan Config := do
  let default : Config := {}
  let programs ← nextItem true addresses
  let ignoredPrograms ← nextItem false addresses
  let filter ← nextItem false (optional filter)
  let extraKinds ← nextItem false (list transferKind)
  let emitTrades ← nextItem false bool
  return { programs := programs.getD default.programs
           ignoredPrograms := ignoredPrograms.getD default.ignoredPrograms
           filter := filter.getD default.filter
           extraKinds := extraKinds.getD default.extraKinds
           emitTrades := emitTrades.getD default.emitTrades }

def config : Scan Config := do
  let fuel := (← get).bytes.size + 1
  record "struct ParseConfig" configItems (configFields fuel true {})

end ConfigText

def Config.ofJsonText (text : String) : Except String Config :=
  match Json.run ConfigText.config text with
  | .ok config => .ok config
  | .error fault => .error s!"invalid parse config: {fault.message}"

end MemeEvents
