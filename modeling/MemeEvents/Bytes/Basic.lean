/-! Byte strings as numbers, read with the first byte least or most significant. -/

namespace MemeEvents.Bytes

/-- The number whose least significant byte comes first. -/
def ofLittleEndian : List UInt8 → Nat
  | [] => 0
  | byte :: rest => byte.toNat + 256 * ofLittleEndian rest

def ofBigEndian (bytes : List UInt8) : Nat :=
  bytes.foldl (fun acc byte => acc * 256 + byte.toNat) 0

def toLittleEndian : Nat → Nat → List UInt8
  | 0, _ => []
  | width + 1, value => value.toUInt8 :: toLittleEndian width (value / 256)

def toBigEndianMinimal (value : Nat) : List UInt8 :=
  if h : value = 0 then []
  else
    have : value / 256 < value := Nat.div_lt_self (Nat.pos_of_ne_zero h) (by decide)
    toBigEndianMinimal (value / 256) ++ [value.toUInt8]
termination_by value

def byteLength (value : Nat) : Nat :=
  if h : value = 0 then 0
  else
    have : value / 256 < value := Nat.div_lt_self (Nat.pos_of_ne_zero h) (by decide)
    byteLength (value / 256) + 1
termination_by value

@[simp] theorem length_toLittleEndian (width value : Nat) :
    (toLittleEndian width value).length = width := by
  induction width generalizing value with
  | zero => rfl
  | succ width ih => simp [toLittleEndian, ih]

theorem ofLittleEndian_toLittleEndian (width value : Nat) :
    ofLittleEndian (toLittleEndian width value) = value % Nat.pow 256 width := by
  induction width generalizing value with
  | zero => simp [toLittleEndian, ofLittleEndian, Nat.mod_one]
  | succ width ih =>
    have low : (value.toUInt8).toNat = value % 256 := by simp [Nat.toUInt8]
    simp only [toLittleEndian, ofLittleEndian, ih, low, Nat.pow_eq]
    rw [Nat.pow_succ, Nat.mul_comm (256 ^ width) 256, Nat.mod_mul]

example : ofLittleEndian [0x34, 0x12] = 0x1234 := by decide
example : ofBigEndian [0x12, 0x34] = 0x1234 := by decide
example : toBigEndianMinimal 0x1234 = [0x12, 0x34] := by decide +kernel

end MemeEvents.Bytes
