/-!
Base64 with the standard alphabet and canonical padding, its faults reported in the order the
standard decoder finds them.
-/

namespace MemeEvents.Base64

inductive DecodeError where
  | invalidByte (offset : Nat) (byte : UInt8)
  | invalidLength (length : Nat)
  | invalidLastSymbol (offset : Nat) (byte : UInt8)
  | invalidPadding
  deriving DecidableEq, Repr

def DecodeError.message : DecodeError → String
  | .invalidByte offset byte => s!"Invalid symbol {byte}, offset {offset}."
  | .invalidLength length => s!"Invalid input length: {length}"
  | .invalidLastSymbol offset byte => s!"Invalid last symbol {byte}, offset {offset}."
  | .invalidPadding => "Invalid padding"

def padByte : UInt8 := 61

/-- The six bits a symbol stands for. -/
def symbolValue? (byte : UInt8) : Option Nat :=
  let b := byte.toNat
  if 65 ≤ b ∧ b ≤ 90 then some (b - 65)
  else if 97 ≤ b ∧ b ≤ 122 then some (b - 71)
  else if 48 ≤ b ∧ b ≤ 57 then some (b + 4)
  else if b = 43 then some 62
  else if b = 47 then some 63
  else none

def groupValues (offset : Nat) (group : List UInt8) : Except DecodeError (List Nat) :=
  group.zipIdx.mapM fun (byte, i) =>
    match symbolValue? byte with
    | some value => .ok value
    | none => .error (.invalidByte (offset + i) byte)

def valuesBytes (values : List Nat) : List UInt8 :=
  let bits := values.foldl (fun acc v => acc * 64 + v) 0
  let count := values.length * 6 / 8
  let spare := values.length * 6 - count * 8
  let whole := bits / Nat.pow 2 spare
  (List.range count).reverse.map fun k => ((whole / Nat.pow 256 k) % 256).toUInt8

def lastGroup (offset : Nat) (group : List UInt8) : Except DecodeError (List UInt8) := do
  let mut values : List Nat := []
  let mut padding := 0
  let mut firstPad := 0
  let mut lastSymbol : UInt8 := 0
  for (byte, i) in group.zipIdx do
    if byte == padByte then
      if i < 2 then throw (.invalidByte (offset + i) byte)
      if padding == 0 then firstPad := i
      padding := padding + 1
    else
      if padding > 0 then throw (.invalidByte (offset + firstPad) padByte)
      lastSymbol := byte
      match symbolValue? byte with
      | some value => values := values ++ [value]
      | none => throw (.invalidByte (offset + i) byte)
  if (offset + group.length != 0) && values.length < 2 then
    throw (.invalidLength (offset + values.length))
  if (padding + values.length) % 4 != 0 then throw .invalidPadding
  let spare := values.length * 6 % 8
  if values.length ≠ 4 && (values.getLast?.getD 0) % Nat.pow 2 spare != 0 then
    throw (.invalidLastSymbol (offset + values.length - 1) lastSymbol)
  return valuesBytes values

def decodeBytes (bytes : List UInt8) : Except DecodeError (List UInt8) := do
  let rem := bytes.length % 4
  if rem == 1 then
    let last := bytes.getLast?.getD 0
    if last != padByte && (symbolValue? last).isNone then
      throw (.invalidByte (bytes.length - 1) last)
  let body := bytes.length - rem - (if rem == 0 then min 4 bytes.length else 0)
  let groups := (List.range (body / 4)).map fun g => ((bytes.drop (4 * g)).take 4, 4 * g)
  let mut out : List UInt8 := []
  for (group, offset) in groups do
    out := out ++ valuesBytes (← groupValues offset group)
  return out ++ (← lastGroup body (bytes.drop body))

def decode (text : String) : Except DecodeError (List UInt8) := decodeBytes text.toUTF8.toList

example : (decodeBytes [65, 81, 73, 61]).toOption = some [1, 2] := by decide +kernel
def fault? (bytes : List UInt8) : Option DecodeError :=
  match decodeBytes bytes with
  | .error fault => some fault
  | .ok _ => none

example : fault? [65, 81, 73] = some .invalidPadding := by decide +kernel
example : fault? [33, 33] = some (.invalidByte 0 33) := by decide +kernel
example : fault? [65, 81, 74, 61] = some (.invalidLastSymbol 2 74) := by decide +kernel

end MemeEvents.Base64
