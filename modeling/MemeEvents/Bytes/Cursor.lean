import MemeEvents.Bytes.Basic
import MemeEvents.Decode.Error

/-!
A forward-only cursor over a byte string. Fixed-width fields are little-endian; a string is a 32-bit
length followed by that many bytes of UTF-8.
-/

namespace MemeEvents

structure Cursor where
  rest : List UInt8
  position : Nat := 0
  deriving Inhabited

/-- Reading from a cursor, failing with a decode fault. -/
abbrev Read := EStateM DecodeError Cursor

namespace Cursor

def ofBytes (bytes : List UInt8) : Cursor := ⟨bytes, 0⟩

def remaining (cursor : Cursor) : Nat := cursor.rest.length

def take (n : Nat) : Read { bytes : List UInt8 // bytes.length = n } := fun cursor =>
  if h : n ≤ cursor.rest.length then
    .ok ⟨cursor.rest.take n, List.length_take_of_le h⟩
      ⟨cursor.rest.drop n, cursor.position + n⟩
  else .error (.outOfBounds n cursor.rest.length) cursor

def left : Read Nat := fun cursor => .ok cursor.remaining cursor

def skip (n : Nat) : Read Unit := do
  let _ ← take n
  pure ()

def fixed (n : Nat) : Read (List UInt8) := do
  pure (← take n).val

def unsigned (width : Nat) : Read Nat := do
  pure (Bytes.ofLittleEndian (← take width).val)

def u8 : Read Nat := unsigned 1

def bool : Read Bool := do
  pure ((← u8) != 0)

def u16 : Read Nat := unsigned 2

def u32 : Read Nat := unsigned 4

def u64 : Read Nat := unsigned 8

def u128 : Read Nat := unsigned 16

def i64 : Read Int := do
  let n ← unsigned 8
  pure (if n < Nat.pow 2 63 then (n : Int) else (n : Int) - Nat.pow 2 64)

def pubkey : Read Pubkey := do
  let bytes ← take 32
  pure ⟨bytes.val, bytes.property⟩

def utf8? (bytes : List UInt8) : Option String :=
  String.fromUTF8? (ByteArray.mk bytes.toArray)

def string : Read String := do
  let length ← u32
  let body ← take length
  match utf8? body.val with
  | some text => pure text
  | none => throw .invalidUtf8

def run {α : Type} (read : Read α) (bytes : List UInt8) : Except DecodeError α :=
  match read.run (ofBytes bytes) with
  | .ok value _ => .ok value
  | .error fault _ => .error fault

end Cursor

end MemeEvents
