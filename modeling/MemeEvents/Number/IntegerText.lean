/-!
Decimal integer text as the ledger tools read it: an optional sign, then ASCII digits and nothing
else, within the bounds of a fixed-width type.
-/

namespace MemeEvents.IntegerText

/-- Why a text is not an integer of the wanted width. -/
inductive Error where
  | empty
  | invalidDigit
  | tooLarge
  | tooSmall
  deriving DecidableEq, Repr

def Error.message : Error → String
  | .empty => "cannot parse integer from empty string"
  | .invalidDigit => "invalid digit found in string"
  | .tooLarge => "number too large to fit in target type"
  | .tooSmall => "number too small to fit in target type"

def digits (bound : Nat) (fault : Error) : List UInt8 → Nat → Except Error Nat
  | [], acc => .ok acc
  | byte :: rest, acc =>
    if byte < 48 ∨ byte > 57 then .error .invalidDigit
    else if acc * 10 > bound then .error fault
    else
      let next := acc * 10 + (byte.toNat - 48)
      if next > bound then .error fault else digits bound fault rest next

def parseUnsigned (bits : Nat) (text : String) : Except Error Nat :=
  match text.toUTF8.toList with
  | [] => .error .empty
  | [43] | [45] => .error .invalidDigit
  | 43 :: rest => digits (Nat.pow 2 bits - 1) .tooLarge rest 0
  | all => digits (Nat.pow 2 bits - 1) .tooLarge all 0

def parseSigned (bits : Nat) (text : String) : Except Error Int :=
  match text.toUTF8.toList with
  | [] => .error .empty
  | [43] | [45] => .error .invalidDigit
  | 45 :: rest => (digits (Nat.pow 2 (bits - 1)) .tooSmall rest 0).map fun n => -(n : Int)
  | 43 :: rest => (digits (Nat.pow 2 (bits - 1) - 1) .tooLarge rest 0).map Int.ofNat
  | all => (digits (Nat.pow 2 (bits - 1) - 1) .tooLarge all 0).map Int.ofNat

example : (parseUnsigned 32 "+42").toOption = some 42 := by decide +kernel
example : (parseUnsigned 32 "4294967296").toBool = false := by decide +kernel
example : (parseSigned 128 "-5").toOption = some (-5) := by decide +kernel

end MemeEvents.IntegerText
