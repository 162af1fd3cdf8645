import MemeEvents.Bytes.Basic

/-!
Base58 text with the alphabet of ledger addresses (no `0`, `O`, `I` or `l`). A text is a big-endian
number in base 58 written after one `1` for every leading zero byte.
-/

namespace MemeEvents.Base58

def alphabet : List Char :=
  "123456789ABCDEFGHJKLMNPQRSTUVWXYZabcdefghijkmnopqrstuvwxyz".toList

/-- Why a text is not base58. Indices count bytes of the UTF-8 text. -/
inductive DecodeError where
  | invalidCharacter (character : Char) (index : Nat)
  | nonAsciiCharacter (index : Nat)
  deriving DecidableEq, Repr

def quoteChar (c : Char) : String :=
  let body :=
    if c = '\'' then "\\'"
    else if c = '\\' then "\\\\"
    else if c = '\n' then "\\n"
    else if c = '\r' then "\\r"
    else if c = '\t' then "\\t"
    else if c = '\x00' then "\\0"
    else if c.toNat < 32 ∨ c.toNat = 127 then
      "\\u" ++ "\x7b" ++ String.ofList (Nat.toDigits 16 c.toNat) ++ "\x7d"
    else String.singleton c
  "'" ++ body ++ "'"

def DecodeError.message : DecodeError → String
  | .invalidCharacter c index =>
    s!"provided string contained invalid character {quoteChar c} at byte {index}"
  | .nonAsciiCharacter index =>
    s!"provided string contained non-ascii character starting at byte {index}"

def digitValue? (byte : UInt8) : Option Nat :=
  alphabet.idxOf? (Char.ofNat byte.toNat)

def digitsValue (bytes : List UInt8) : Except DecodeError Nat :=
  go bytes 0 0
where
  go : List UInt8 → Nat → Nat → Except DecodeError Nat
    | [], _, acc => .ok acc
    | byte :: rest, index, acc =>
      if byte.toNat > 127 then .error (.nonAsciiCharacter index)
      else match digitValue? byte with
        | none => .error (.invalidCharacter (Char.ofNat byte.toNat) index)
        | some d => go rest (index + 1) (acc * 58 + d)

def leadingZeros (bytes : List UInt8) : Nat :=
  (bytes.takeWhile (· == 49)).length

def decode (text : String) : Except DecodeError (List UInt8) := do
  let bytes := text.toUTF8.toList
  let value ← digitsValue bytes
  pure (List.replicate (leadingZeros bytes) 0 ++ Bytes.toBigEndianMinimal value)

def digitsOf (value : Nat) : List Char :=
  if h : value = 0 then []
  else
    have : value / 58 < value := Nat.div_lt_self (Nat.pos_of_ne_zero h) (by decide)
    digitsOf (value / 58) ++ [alphabet.getD (value % 58) '1']
termination_by value

def encode (bytes : List UInt8) : String :=
  let zeros := (bytes.takeWhile (· == 0)).length
  String.ofList (List.replicate zeros '1' ++ digitsOf (Bytes.ofBigEndian bytes))

example : encode [0, 0, 1] = "112" := by decide +kernel
example : (decode "112").toOption = some [0, 0, 1] := by decide +kernel
example : (match decode "10" with | .error e => some e | .ok _ => none) =
    some (.invalidCharacter '0' 1) := by decide +kernel

end MemeEvents.Base58
