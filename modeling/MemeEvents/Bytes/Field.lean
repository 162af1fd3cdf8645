import MemeEvents.Bytes.Cursor

/-! Single fields of a binary layout, read one after another from a cursor. -/

namespace MemeEvents

inductive Field where
  | u8 | bool | u16 | u32 | u64 | i64 | u128 | pubkey | string
  | skip (count : Nat)
  | fixed (count : Nat)
  deriving DecidableEq, Repr

inductive FieldValue where
  | number (value : Nat)
  | wide (value : Int)
  | flag (value : Bool)
  | key (value : Pubkey)
  | text (value : String)
  | bytes (value : List UInt8)
  | nothing

namespace Field

def read : Field → Read FieldValue
  | .u8 => .number <$> Cursor.u8
  | .bool => .flag <$> Cursor.bool
  | .u16 => .number <$> Cursor.u16
  | .u32 => .number <$> Cursor.u32
  | .u64 => (.wide ∘ Int.ofNat) <$> Cursor.u64
  | .i64 => .wide <$> Cursor.i64
  | .u128 => (.wide ∘ Int.ofNat) <$> Cursor.u128
  | .pubkey => .key <$> Cursor.pubkey
  | .string => .text <$> Cursor.string
  | .skip count => (fun _ => .nothing) <$> Cursor.skip count
  | .fixed count => .bytes <$> Cursor.fixed count

/-- Reads the fields in order, each from where the previous one left the cursor; every
outcome comes with the cursor position after it. -/
def readAll : List Field → Cursor → List (Except DecodeError FieldValue × Nat) × Cursor
  | [], cursor => ([], cursor)
  | field :: rest, cursor =>
    let (outcome, after) := match field.read.run cursor with
      | .ok value after => (Except.ok value, after)
      | .error fault after => (Except.error fault, after)
    let (outcomes, final) := readAll rest after
    ((outcome, after.position) :: outcomes, final)

end Field

end MemeEvents
