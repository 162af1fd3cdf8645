import Mathlib.Algebra.Group.Nat.Defs
import MemeEvents.Token.Ui

/-! Where the decimal point of a UI amount goes. -/

namespace MemeEvents.Ui

theorem ofDigitChars_lowDigits (value places : Nat) :
    Nat.ofDigitChars 10 (lowDigits value places) 0 = value % 10 ^ places := by
  induction places generalizing value with
  | zero => simp [lowDigits, Nat.mod_one]
  | succ places hypothesis =>
      rw [lowDigits, Nat.ofDigitChars_append, hypothesis,
        Nat.ofDigitChars_cons_digitChar_of_lt_ten (Nat.mod_lt value (by decide)),
        Nat.ofDigitChars_nil, Nat.pow_succ', Nat.mod_mul]
      omega

theorem toDigits_eq_append_lowDigits (places value : Nat) (large : 10 ^ places ≤ value) :
    Nat.toDigits 10 value = Nat.toDigits 10 (value / 10 ^ places) ++ lowDigits value places := by
  induction places generalizing value with
  | zero => simp [lowDigits]
  | succ places hypothesis =>
      have unit : 1 ≤ 10 ^ places := Nat.one_le_pow places 10 (by decide)
      rw [Nat.pow_succ'] at large
      have atLeastTen : 10 ≤ value := by omega
      have quotientLarge : 10 ^ places ≤ value / 10 := by
        rw [Nat.le_div_iff_mul_le (by decide)]
        omega
      rw [Nat.toDigits_of_base_le (by decide) atLeastTen, hypothesis (value / 10) quotientLarge,
        Nat.div_div_eq_div_mul, ← Nat.pow_succ', lowDigits, List.append_assoc]

theorem lowDigits_eq_replicate_append (places value : Nat) (positive : 0 < places)
    (small : value < 10 ^ places) :
    lowDigits value places =
      List.replicate (places - (Nat.toDigits 10 value).length) '0' ++ Nat.toDigits 10 value := by
  induction places generalizing value with
  | zero => omega
  | succ places hypothesis =>
      rw [lowDigits]
      by_cases single : value < 10
      · rw [Nat.toDigits_of_lt_base single, Nat.div_eq_of_lt single, lowDigits_zero,
          Nat.mod_eq_of_lt single]
        simp
      · have placesPositive : 0 < places := by
          cases places with
          | zero => simp at small; omega
          | succ places => omega
        have quotientSmall : value / 10 < 10 ^ places := by
          rw [Nat.div_lt_iff_lt_mul (by decide), ← Nat.pow_succ]
          exact small
        rw [hypothesis (value / 10) placesPositive quotientSmall,
          Nat.toDigits_of_base_le (n := value) (by decide) (by omega)]
        simp [List.append_assoc]

theorem text_eq_point (raw decimals : Nat) :
    text raw decimals =
      if decimals = 0 then toString raw
      else toString (raw / 10 ^ decimals) ++ "." ++ String.ofList (lowDigits raw decimals) := by
  unfold text
  simp only [Nat.toString_eq_repr, Nat.toList_repr]
  by_cases none : decimals = 0
  · simp only [none, if_true]
    rfl
  · simp only [none, if_false]
    by_cases large : 10 ^ decimals ≤ raw
    · have split := toDigits_eq_append_lowDigits decimals raw large
      have longer : (Nat.toDigits 10 raw).length > decimals := by
        rw [split, List.length_append, length_lowDigits]
        have := Nat.length_toDigits_pos (b := 10) (n := raw / 10 ^ decimals)
        omega
      rw [if_pos longer, split]
      have whole : (Nat.toDigits 10 (raw / 10 ^ decimals) ++ lowDigits raw decimals).length -
          decimals = (Nat.toDigits 10 (raw / 10 ^ decimals)).length := by
        rw [List.length_append, length_lowDigits]
        omega
      rw [whole, List.take_left, List.drop_left]
      rfl
    · have small : raw < 10 ^ decimals := by omega
      have shorter : ¬ (Nat.toDigits 10 raw).length > decimals := by
        rw [Nat.not_lt, Nat.length_toDigits_le_iff (by decide) (by omega)]
        exact small
      rw [if_neg shorter, Nat.div_eq_of_lt small,
        lowDigits_eq_replicate_append decimals raw (by omega) small]
      rfl

/-- The UI text of an amount: with no places the plain numeral; otherwise the numeral of the
whole part, a point and exactly `decimals` digits, where whole part and digits read back as the
amount. -/
theorem text_places (raw decimals : Nat) :
    text raw decimals =
        (if decimals = 0 then toString raw
        else toString (raw / 10 ^ decimals) ++ "." ++ String.ofList (lowDigits raw decimals)) ∧
      (lowDigits raw decimals).length = decimals ∧
      (∀ digit ∈ lowDigits raw decimals, digit.isDigit) ∧
      raw / 10 ^ decimals * 10 ^ decimals + Nat.ofDigitChars 10 (lowDigits raw decimals) 0 = raw := by
  refine ⟨text_eq_point raw decimals, length_lowDigits raw decimals,
    isDigit_of_mem_lowDigits raw decimals, ?_⟩
  rw [ofDigitChars_lowDigits, Nat.mul_comm]
  exact Nat.div_add_mod raw (10 ^ decimals)

end MemeEvents.Ui
