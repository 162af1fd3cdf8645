import MemeEvents.Number.Binary64

/-!
Raw token amounts and their UI form: the decimal point placed `decimals` digits from the right,
and the nearest binary64 value.
-/

namespace MemeEvents.Ui

/-- The raw amount with the decimal point placed: no point for zero places, and a leading
`0.` and zeros when the amount has no more digits than places. -/
def text (raw decimals : Nat) : String :=
  let digits := (toString raw).toList
  if decimals = 0 then String.ofList digits
  else if digits.length > decimals then
    String.ofList (digits.take (digits.length - decimals)) ++ "." ++
      String.ofList (digits.drop (digits.length - decimals))
  else "0." ++ String.ofList (List.replicate (decimals - digits.length) '0' ++ digits)

def value (raw decimals : Nat) : Binary64 :=
  Binary64.ofRatio raw (Nat.pow 10 decimals)

def valueOfChange (change : Int) (decimals : Nat) : Binary64 :=
  value change.natAbs decimals

def lowDigits (value : Nat) : Nat → List Char
  | 0 => []
  | places + 1 => lowDigits (value / 10) places ++ [Nat.digitChar (value % 10)]

@[simp] theorem length_lowDigits (value places : Nat) :
    (lowDigits value places).length = places := by
  induction places generalizing value with
  | zero => rfl
  | succ places hypothesis => simp [lowDigits, hypothesis]

theorem lowDigits_zero (places : Nat) : lowDigits 0 places = List.replicate places '0' := by
  induction places with
  | zero => rfl
  | succ places hypothesis =>
      rw [lowDigits, Nat.zero_div, hypothesis, List.replicate_succ']
      rfl

theorem isDigit_of_mem_lowDigits (value places : Nat) :
    ∀ digit ∈ lowDigits value places, digit.isDigit := by
  induction places generalizing value with
  | zero => simp [lowDigits]
  | succ places hypothesis =>
      intro digit member
      rcases List.mem_append.mp member with lower | last
      · exact hypothesis (value / 10) digit lower
      · rw [List.mem_singleton.mp last, Nat.isDigit_digitChar]
        simpa using Nat.mod_lt value (by decide : 10 > 0)

example : text 1500000000 9 = "1.500000000" := by decide +kernel
example : text 42 6 = "0.000042" := by decide +kernel
example : text 7 0 = "7" := by decide +kernel

end MemeEvents.Ui
