import MemeEvents.Chain.Key

/-!
Why an instruction that a decoder recognised could not be decoded. An instruction that no
decoder recognises, or one that a decoder deliberately passes over, is no error.
-/

namespace MemeEvents

inductive DecodeError where
  | outOfBounds (needed remaining : Nat)
  | invalidUtf8
  | missingAccount (index count : Nat)
  | missingTransfer (expected found : Nat)
  | missingBalance (account : Pubkey)
  | unknownDecimals (mint : Pubkey)
  | missingInstruction (name : String)
  | sameMintTrade (mint : Pubkey)
  | invalidLayout (detail : String)
  /-- An index that the source takes without a check lies past the end: the process stops there,
  so this is never reported, only reached. -/
  | outOfRange (index length : Nat)
  deriving DecidableEq

namespace DecodeError

/-- The name of the kind of fault, as reports label it. -/
def kind : DecodeError → String
  | .outOfBounds .. => "OutOfBounds"
  | .invalidUtf8 => "InvalidUtf8"
  | .missingAccount .. => "MissingAccount"
  | .missingTransfer .. => "MissingTransfer"
  | .missingBalance .. => "MissingBalance"
  | .unknownDecimals .. => "UnknownDecimals"
  | .missingInstruction .. => "MissingInstruction"
  | .sameMintTrade .. => "SameMintTrade"
  | .invalidLayout .. => "InvalidLayout"
  | .outOfRange .. => "Panic"

def message : DecodeError → String
  | .outOfBounds needed remaining =>
    s!"read out of bounds: needed {needed} bytes, {remaining} remaining"
  | .invalidUtf8 => "string field is not valid utf-8"
  | .missingAccount index count => s!"missing account at index {index} (instruction has {count})"
  | .missingTransfer expected found =>
    s!"expected at least {expected} correlated transfers, found {found}"
  | .missingBalance account => s!"missing balance snapshot for account {account}"
  | .unknownDecimals mint => s!"unknown decimals for mint {mint}"
  | .missingInstruction name => "missing companion instruction " ++ "\x60" ++ name ++ "\x60"
  | .sameMintTrade mint => s!"trade input and output share mint {mint}"
  | .invalidLayout detail => s!"invalid layout: {detail}"
  | .outOfRange index length =>
    s!"index out of bounds: the len is {length} but the index is {index}"

end DecodeError

/-! Accesses that the source makes without a check of its own, relying on a guard elsewhere. -/

namespace Unchecked

def get {α : Type} (items : List α) (index : Nat) : Except DecodeError α :=
  match items[index]? with
  | some item => .ok item
  | none => .error (.outOfRange index items.length)

def suffix (bytes : List UInt8) (start : Nat) : Except DecodeError (List UInt8) :=
  if start ≤ bytes.length then .ok (bytes.drop start) else .error (.outOfRange start bytes.length)

theorem get_of_lt {α : Type} {items : List α} {index : Nat} (inside : index < items.length) :
    get items index = .ok items[index] := by
  simp [get, inside]

theorem suffix_of_le {bytes : List UInt8} {start : Nat} (inside : start ≤ bytes.length) :
    suffix bytes start = .ok (bytes.drop start) :=
  if_pos inside

end Unchecked

end MemeEvents
