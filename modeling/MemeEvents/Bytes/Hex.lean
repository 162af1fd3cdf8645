/-!
Lowercase hexadecimal text for byte strings: two digits per byte, the high nibble first.
Reading accepts either case of the letters and refuses an odd number of digits.
-/

namespace MemeEvents.Hex

/-- The digit for a nibble below sixteen, in lowercase. -/
def digit (nibble : Nat) : Char :=
  if nibble < 10 then Char.ofNat (48 + nibble) else Char.ofNat (87 + nibble)

def byteDigits (byte : UInt8) : List Char :=
  [digit (byte.toNat / 16), digit (byte.toNat % 16)]

def encode (bytes : List UInt8) : String :=
  String.ofList (bytes.flatMap byteDigits)

def digitValue? (c : Char) : Option Nat :=
  if '0' ≤ c ∧ c ≤ '9' then some (c.toNat - 48)
  else if 'a' ≤ c ∧ c ≤ 'f' then some (c.toNat - 87)
  else if 'A' ≤ c ∧ c ≤ 'F' then some (c.toNat - 55)
  else none

def decodeChars : List Char → Option (List UInt8)
  | [] => some []
  | [_] => none
  | high :: low :: rest => do
    let h ← digitValue? high
    let l ← digitValue? low
    let tail ← decodeChars rest
    pure ((h * 16 + l).toUInt8 :: tail)

def decode? (text : String) : Option (List UInt8) :=
  decodeChars text.toList

example : encode [0x00, 0xab, 0x7f] = "00ab7f" := by decide
example : decode? "00AB7f" = some [0x00, 0xab, 0x7f] := by decide
example : decode? "abc" = none := by decide

end MemeEvents.Hex
