/-!
Points of the twisted Edwards curve `-x² + y² = 1 + d x² y²` over the field of `2 ^ 255 - 19`
elements, in their 32-byte compressed form: the little-endian `y` coordinate with the sign of `x` in
the top bit.
-/

namespace MemeEvents.Edwards

def prime : Nat := Nat.pow 2 255 - 19

/-- `base ^ exponent` modulo `modulus`, by repeated squaring. -/
def powMod (base exponent modulus : Nat) : Nat :=
  go exponent (base % modulus) 1 (exponent + 1)
where
  go (e b acc : Nat) : Nat → Nat
    | 0 => acc
    | fuel + 1 =>
      if e = 0 then acc
      else go (e / 2) (b * b % modulus) (if e % 2 = 1 then acc * b % modulus else acc) fuel

def inverse (a : Nat) : Nat := powMod a (prime - 2) prime

def d : Nat := (prime - 121665) * inverse 121666 % prime

def isSquare (a : Nat) : Bool :=
  a % prime = 0 || powMod a ((prime - 1) / 2) prime = 1

def coordinate (bytes : List UInt8) : Nat :=
  (bytes.foldr (fun byte acc => acc * 256 + byte.toNat) 0) % Nat.pow 2 255

def isOnCurve (bytes : List UInt8) : Bool :=
  let y := coordinate bytes % prime
  let yy := y * y % prime
  let u := (yy + prime - 1) % prime
  let v := (d * yy + 1) % prime
  u = 0 || (v ≠ 0 && isSquare (u * inverse v % prime))

end MemeEvents.Edwards
