import MemeEvents.Wire.Compiled

/-! The binary form of a signed transaction, its lengths written as compact 16-bit integers. -/

namespace MemeEvents.Binary

/-- Reading bytes from the front of a list, failing with a message. -/
abbrev Unpack := StateT (List UInt8) (Except String)

def endOfInput : String := "io error: unexpected end of file"

def byte : Unpack UInt8 := fun rest =>
  match rest with
  | [] => throw endOfInput
  | b :: more => pure (b, more)

def bytes (count : Nat) : Unpack (List UInt8) := fun rest =>
  if count ≤ rest.length then pure (rest.take count, rest.drop count) else throw endOfInput

def invalidValue (found expected : String) : String := s!"invalid value: {found}, expected {expected}"

def compactLength : Unpack Nat := do
  let first ← byte
  if first < 0x80 then return first.toNat
  let second ← byte
  if second == 0 then throw (invalidValue "alias encoding" "strict form encoding")
  let low := first.toNat % 128 + (second.toNat % 128) * 128
  if second < 0x80 then return low
  let third ← byte
  if third == 0 then throw (invalidValue "alias encoding" "strict form encoding")
  if third ≥ 0x80 then
    throw (invalidValue "continue signal on byte-three" "a terminal signal on or before byte-three")
  let value := low + third.toNat * 16384
  if value > 65535 then
    throw (invalidValue s!"integer \x60{value}\x60" "a value in the range [0, 65535]")
  return value

def compactList {α : Type} (item : Unpack α) : Unpack (List α) := do
  let count ← compactLength
  (List.replicate count ()).mapM fun _ => item

def instruction : Unpack CompiledInstruction := do
  let programIndex ← byte
  let accounts ← compactList byte
  let data ← compactList byte
  return ⟨programIndex.toNat, accounts.map (·.toNat), data⟩

def messageBody (header : MessageHeader) : Unpack CompiledMessage := do
  let keys ← compactList (bytes 32)
  let _blockhash ← bytes 32
  let instructions ← compactList instruction
  return ⟨some header, keys, instructions⟩

def lookup : Unpack Unit := do
  let _table ← bytes 32
  let _writable ← compactList byte
  let _readonly ← compactList byte

def message : Unpack CompiledMessage := do
  let prefixByte ← byte
  if prefixByte ≥ 0x80 then
    let version := prefixByte.toNat % 128
    if version == 127 then throw "off-chain messages are not accepted"
    if version != 0 then
      throw (invalidValue s!"integer \x60{version}\x60" "a valid transaction message version")
    let required ← byte
    let readonlySigned ← byte
    let readonlyUnsigned ← byte
    let body ← messageBody ⟨required.toNat, readonlySigned.toNat, readonlyUnsigned.toNat⟩
    let _lookups ← compactList lookup
    return body
  else
    let readonlySigned ← byte
    let readonlyUnsigned ← byte
    messageBody ⟨prefixByte.toNat, readonlySigned.toNat, readonlyUnsigned.toNat⟩

def transaction : Unpack CompiledTransaction := do
  let signatures ← compactList (bytes 64)
  let message ← message
  return ⟨signatures, some message⟩

def decode (data : List UInt8) : Except String CompiledTransaction :=
  (transaction.run data).map (·.1)

example : (compactLength.run [0x80, 0x01]).toOption = some (128, []) := by decide +kernel
example : (compactLength.run [0xff, 0xff, 0x03]).toOption = some (65535, []) := by decide +kernel
example : (compactLength.run [0x80, 0x00]).toOption = none := by decide +kernel

end MemeEvents.Binary
