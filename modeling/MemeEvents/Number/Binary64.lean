/-! Binary64 floating-point values as the ledger's UI amounts carry them, by their 64 bits. -/

namespace MemeEvents

structure Binary64 where
  bits : UInt64
  deriving DecidableEq, Repr, Inhabited

namespace Binary64

def zero : Binary64 := ⟨0⟩

def infinity : Binary64 := ⟨0x7FF0000000000000⟩

def isNegative (x : Binary64) : Bool := x.bits >>> 63 == 1

def negate (x : Binary64) : Binary64 := ⟨x.bits ^^^ 0x8000000000000000⟩

def leScaled2 (a : Nat) (i : Int) (b : Nat) (j : Int) : Bool :=
  a * Nat.pow 2 (i - j).toNat ≤ b * Nat.pow 2 (j - i).toNat

def ofRatio (num den : Nat) : Binary64 :=
  if num = 0 ∨ den = 0 then zero
  else
    -- `num / den` lies in `(2 ^ (e0 + 51), 2 ^ (e0 + 53))`
    let e0 : Int := (num.log2 : Int) - den.log2 - 52
    let e1 := if leScaled2 (Nat.pow 2 52) e0 num 0 ∨ ¬ leScaled2 (Nat.pow 2 52 * den) e0 num 0 then
        (if leScaled2 (Nat.pow 2 52 * den) e0 num 0 then e0 else e0 - 1)
      else e0
    let e := max e1 (-1074)
    -- the quotient `num / (den * 2 ^ e)` with its remainder
    let n := num * Nat.pow 2 (-e).toNat
    let d := den * Nat.pow 2 e.toNat
    let q := n / d
    let r := n % d
    let m := if 2 * r > d ∨ (2 * r = d ∧ q % 2 = 1) then q + 1 else q
    let bits := (e + 1074).toNat * Nat.pow 2 52 + m
    if bits ≥ 0x7FF0000000000000 then infinity else ⟨bits.toUInt64⟩

def ofDecimal (negative : Bool) (mantissa : Nat) (exponent : Int) : Binary64 :=
  let magnitude := ofRatio (mantissa * Nat.pow 10 exponent.toNat) (Nat.pow 10 (-exponent).toNat)
  if negative then magnitude.negate else magnitude

/-- A finite non-negative value `m * 2 ^ q`; `narrowBelow` marks a power of two whose
neighbour below is half as far as its neighbour above. -/
structure Finite where
  m : Nat
  q : Int
  narrowBelow : Bool

def finite (x : Binary64) : Finite :=
  let e := ((x.bits >>> 52) &&& 0x7FF).toNat
  let f := (x.bits &&& 0xFFFFFFFFFFFFF).toNat
  if e = 0 then ⟨f, -1074, false⟩ else ⟨Nat.pow 2 52 + f, (e : Int) - 1075, f == 0 && e > 1⟩

def isFinite (x : Binary64) : Bool := ((x.bits >>> 52) &&& 0x7FF) != 0x7FF

def compareScaled (a : Nat) (i : Int) (n : Nat) (j : Int) : Ordering :=
  compare (a * Nat.pow 10 i.toNat * Nat.pow 2 (-j).toNat) (n * Nat.pow 2 j.toNat * Nat.pow 10 (-i).toNat)

def Finite.readsBack (x : Finite) (digits : Nat) (exp : Int) : Bool :=
  let lo := if x.narrowBelow then 4 * x.m - 1 else 4 * x.m - 2
  let hi := 4 * x.m + 2
  let included := x.m % 2 == 0
  let cl := compareScaled digits exp lo (x.q - 2)
  let ch := compareScaled digits exp hi (x.q - 2)
  (cl == .gt || (included && cl == .eq)) && (ch == .lt || (included && ch == .eq))

def Finite.scale (x : Finite) : Int :=
  let estimate : Int := ((x.m.log2 : Int) + x.q) * 3 / 10
  let below (k : Int) : Bool := compareScaled 1 k x.m x.q == .gt
  let up := (List.range 8).foldl (fun k _ => if below (k - 1) then k - 1 else k) (estimate + 4)
  up

def Finite.floorOnGrid (x : Finite) (k : Int) : Nat :=
  (x.m * Nat.pow 2 x.q.toNat * Nat.pow 10 (-k).toNat) / (Nat.pow 2 (-x.q).toNat * Nat.pow 10 k.toNat)

def Finite.pick (x : Finite) (low : Nat) (k : Int) : Nat :=
  -- twice the value against the sum of the two neighbours
  match compareScaled (2 * low + 1) k (2 * x.m) x.q with
  | .gt => low
  | .lt => low + 1
  | .eq => if low % 2 == 0 then low else low + 1

def Finite.shortest (x : Finite) : Nat × Int :=
  let k := x.scale
  let search := (List.range 17).findSome? fun (i : Nat) =>
    let exp : Int := k - ((i : Int) + 1)
    let low := x.floorOnGrid exp
    match x.readsBack low exp, x.readsBack (low + 1) exp with
    | true, true => some (x.pick low exp, exp)
    | true, false => some (low, exp)
    | false, true => some (low + 1, exp)
    | false, false => none
  let (digits, exp) := search.getD (x.m * Nat.pow 2 x.q.toNat * Nat.pow 5 (-x.q).toNat, min x.q 0)
  stripZeros digits exp digits
where
  stripZeros (digits : Nat) (exp : Int) : Nat → Nat × Int
    | 0 => (digits, exp)
    | fuel + 1 =>
      if digits ≠ 0 ∧ digits % 10 = 0 then stripZeros (digits / 10) (exp + 1) fuel
      else (digits, exp)

def exponentText (e : Int) : String := if e < 0 then toString e else "+" ++ toString e

def toText (x : Binary64) : String :=
  let sign := if x.isNegative then "-" else ""
  let f := x.finite
  if f.m = 0 then sign ++ "0.0"
  else
    let (digits, k) := f.shortest
    let s := toString digits
    let len : Int := s.length
    let kk := len + k
    let body :=
      if 0 ≤ k ∧ kk ≤ 16 then s ++ String.ofList (List.replicate k.toNat '0') ++ ".0"
      else if 0 < kk ∧ kk ≤ 16 then
        String.ofList (s.toList.take kk.toNat) ++ "." ++ String.ofList (s.toList.drop kk.toNat)
      else if -5 < kk ∧ kk ≤ 0 then "0." ++ String.ofList (List.replicate (-kk).toNat '0') ++ s
      else if len = 1 then s ++ "e" ++ exponentText (kk - 1)
      else
        String.ofList (s.toList.take 1) ++ "." ++ String.ofList (s.toList.drop 1) ++ "e" ++
          exponentText (kk - 1)
    sign ++ body

def Finite.ratio (x : Finite) : Nat × Nat := (x.m * Nat.pow 2 x.q.toNat, Nat.pow 2 (-x.q).toNat)

def isZero (x : Binary64) : Bool := (x.bits &&& 0x7FFFFFFFFFFFFFFF) == 0

def isInfinite (x : Binary64) : Bool := (x.bits &&& 0x7FFFFFFFFFFFFFFF) == 0x7FF0000000000000

def mul (x y : Binary64) : Binary64 :=
  let (a, b) := x.finite.ratio
  let (c, d) := y.finite.ratio
  ofRatio (a * c) (b * d)

def div (x y : Binary64) : Binary64 :=
  let (a, b) := x.finite.ratio
  let (c, d) := y.finite.ratio
  ofRatio (a * d) (b * c)

def le (x y : Binary64) : Bool :=
  let xz := (x.bits &&& 0x7FFFFFFFFFFFFFFF) == 0
  let yz := (y.bits &&& 0x7FFFFFFFFFFFFFFF) == 0
  if xz && yz then true
  else match x.isNegative, y.isNegative with
    | false, false => x.bits ≤ y.bits
    | true, true => y.bits ≤ x.bits
    | true, false => true
    | false, true => false

example : (ofRatio 3 2).bits = 0x3FF8000000000000 := by decide +kernel
example : (ofRatio 1 10).finite.shortest = (1, -1) := by decide +kernel
example : (ofRatio 70000 1).finite.shortest = (7, 4) := by decide +kernel
example : (mul (ofRatio 3 1) (ofRatio 1 10)).bits = 0x3FD3333333333334 := by decide +kernel

end Binary64

end MemeEvents
