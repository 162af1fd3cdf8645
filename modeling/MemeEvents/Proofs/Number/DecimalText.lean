import Mathlib.Algebra.Group.Nat.Defs
import MemeEvents.Number.IntegerText
import MemeEvents.Proofs.Text.Utf8

/-! Decimal text read as an unsigned integer of a fixed width. -/

namespace MemeEvents.IntegerText

def unsigned : List Char → List Char
  | '+' :: digits => digits
  | digits => digits

/-- `text` is the numeral of `value` as an unsigned integer of `bits` bits: after an optional
plus sign, one or more ASCII digits, of a value below `2 ^ bits`. -/
structure Spells (bits : Nat) (text : String) (value : Nat) : Prop where
  nonempty : unsigned text.toList ≠ []
  decimal : ∀ c ∈ unsigned text.toList, c.isDigit
  value_eq : Nat.ofDigitChars 10 (unsigned text.toList) 0 = value
  bounded : value < 2 ^ bits

def significant (digits : List Char) : List Char :=
  match digits.dropWhile (· = '0') with
  | [] => ['0']
  | rest => rest

def canonical (text : String) : String := String.ofList (significant (unsigned text.toList))

theorem unsigned_of_ne {c : Char} (rest : List Char) (other : c ≠ '+') :
    unsigned (c :: rest) = c :: rest := by
  unfold unsigned
  split
  · rename_i plus
    cases plus
    exact absurd rfl other
  · rfl

/-! ### Reading digits -/

theorem le_ofDigitChars (digits : List Char) (acc : Nat) :
    acc ≤ Nat.ofDigitChars 10 digits acc := by
  rw [Nat.ofDigitChars_eq_ofDigitChars_zero]
  have scale : acc ≤ 10 ^ digits.length * acc :=
    Nat.le_mul_of_pos_left acc (Nat.one_le_pow _ _ (by decide))
  omega

theorem digits_cons (bound : Nat) (fault : Error) (c : Char) (rest : List UInt8) (acc : Nat) :
    digits bound fault (String.utf8EncodeChar c ++ rest) acc =
      if !c.isDigit then .error .invalidDigit
      else if acc * 10 > bound then .error fault
      else if acc * 10 + (c.toNat - 48) > bound then .error fault
      else digits bound fault rest (acc * 10 + (c.toNat - 48)) := by
  by_cases ascii : c.toNat < 128
  · rw [Utf8.utf8EncodeChar_of_lt ascii]
    have byte : (c.toNat.toUInt8).toNat = c.toNat := by
      simp [Nat.toUInt8]
      omega
    have same : (c.toNat < UInt8.toNat 48 ∨ UInt8.toNat 57 < c.toNat) ↔ (!c.isDigit) = true := by
      rw [Bool.not_eq_true', ← Bool.not_eq_true, Char.isDigit_iff_toNat]
      simp only [UInt8.reduceToNat, Char.reduceToNat]
      omega
    simp only [List.singleton_append, digits, GT.gt, UInt8.lt_iff_toNat_lt, byte, same]
  · obtain ⟨byte, more, encoded, high⟩ := Utf8.utf8EncodeChar_of_le (Nat.le_of_not_lt ascii)
    have notDigit : c.isDigit = false := by
      rw [Bool.eq_false_iff]
      intro digit
      have := Char.isDigit_iff_toNat.mp digit
      simp only [Char.reduceToNat] at this
      omega
    have beyond : byte > 57 := UInt8.lt_iff_toNat_lt.mpr (by simp; omega)
    rw [encoded, notDigit]
    simp only [List.cons_append, digits]
    rw [if_pos (Or.inr beyond)]
    rfl

theorem digits_flatMap_eq_ok_iff {bound : Nat} {fault : Error} (cs : List Char) {acc : Nat}
    (value : Nat) (within : acc ≤ bound) :
    digits bound fault (cs.flatMap String.utf8EncodeChar) acc = .ok value ↔
      (∀ c ∈ cs, c.isDigit) ∧ Nat.ofDigitChars 10 cs acc = value ∧ value ≤ bound := by
  induction cs generalizing acc with
  | nil =>
    simp only [List.flatMap_nil, digits, Except.ok.injEq, List.not_mem_nil, false_implies,
      implies_true, Nat.ofDigitChars_nil, true_and]
    constructor
    · rintro rfl
      exact ⟨rfl, within⟩
    · exact fun ⟨same, _⟩ => same
  | cons c cs ih =>
    rw [List.flatMap_cons, digits_cons, Nat.ofDigitChars_cons]
    -- the value only grows, so a check that fails on the way fails at the end too
    have grows := le_ofDigitChars cs (10 * acc + (c.toNat - '0'.toNat))
    simp only [Char.reduceToNat] at grows ⊢
    by_cases digit : c.isDigit
    · simp only [digit, Bool.not_true, Bool.false_eq_true, ↓reduceIte, List.mem_cons,
        forall_eq_or_imp, true_and]
      split
      · simp only [reduceCtorEq, false_iff, not_and]
        intro _ reached
        omega
      · split
        · simp only [reduceCtorEq, false_iff, not_and]
          intro _ reached
          omega
        · rw [ih (by omega), Nat.mul_comm acc 10]
    · simp [digit]

/-! ### Reading a numeral -/

section Numeral

variable {bits : Nat} {text : String}

theorem parseUnsigned_of_nil (chars : text.toList = []) :
    parseUnsigned bits text = .error .empty := by
  unfold parseUnsigned
  rw [Utf8.toUTF8_toList, chars]
  rfl

theorem parseUnsigned_of_sign_alone (chars : text.toList = ['+']) :
    parseUnsigned bits text = .error .invalidDigit := by
  unfold parseUnsigned
  rw [Utf8.toUTF8_toList, chars]
  rfl

theorem parseUnsigned_of_sign {rest : List Char} (chars : text.toList = '+' :: rest)
    (more : rest ≠ []) :
    parseUnsigned bits text =
      digits (Nat.pow 2 bits - 1) .tooLarge (rest.flatMap String.utf8EncodeChar) 0 := by
  obtain ⟨c, later, rfl⟩ := List.exists_cons_of_ne_nil more
  obtain ⟨byte, bytes, encoded⟩ := List.exists_cons_of_ne_nil (@String.utf8EncodeChar_ne_nil c)
  unfold parseUnsigned
  rw [Utf8.toUTF8_toList, chars, List.flatMap_cons, List.flatMap_cons, encoded]
  rfl

theorem parseUnsigned_of_unsigned {c : Char} {rest : List Char} (chars : text.toList = c :: rest)
    (other : c ≠ '+') :
    parseUnsigned bits text =
      digits (Nat.pow 2 bits - 1) .tooLarge ((c :: rest).flatMap String.utf8EncodeChar) 0 := by
  -- the first byte is a plus sign only for the plus sign itself
  have first : ∃ byte more, String.utf8EncodeChar c = byte :: more ∧ byte ≠ 43 := by
    by_cases ascii : c.toNat < 128
    · refine ⟨c.toNat.toUInt8, [], Utf8.utf8EncodeChar_of_lt ascii, fun plus => other ?_⟩
      have code : c.toNat = 43 := by
        have := congrArg UInt8.toNat plus
        simp [Nat.toUInt8] at this
        omega
      exact Char.toNat_inj.mp code
    · obtain ⟨byte, more, encoded, high⟩ := Utf8.utf8EncodeChar_of_le (Nat.le_of_not_lt ascii)
      exact ⟨byte, more, encoded, fun plus => by rw [plus] at high; simp at high⟩
  obtain ⟨byte, more, encoded, notPlus⟩ := first
  unfold parseUnsigned
  rw [Utf8.toUTF8_toList, chars, List.flatMap_cons, encoded, List.cons_append]
  split
  · rename_i empty
    cases empty
  · rename_i alone
    exact absurd (List.cons.inj alone).1 notPlus
  · rename_i minus
    obtain ⟨dash, tail⟩ := List.cons.inj minus
    rw [dash, tail]
    rfl
  · rename_i signed
    cases signed
    exact absurd rfl notPlus
  · rfl

theorem parseUnsigned_eq_ok_iff (value : Nat) :
    parseUnsigned bits text = .ok value ↔ Spells bits text value := by
  have bound : value ≤ Nat.pow 2 bits - 1 ↔ value < 2 ^ bits := by
    have := Nat.one_le_two_pow (n := bits)
    rw [Nat.pow_eq]
    omega
  have spells : Spells bits text value ↔ unsigned text.toList ≠ [] ∧
      ((∀ c ∈ unsigned text.toList, c.isDigit) ∧
        Nat.ofDigitChars 10 (unsigned text.toList) 0 = value ∧ value ≤ Nat.pow 2 bits - 1) := by
    rw [bound]
    exact ⟨fun ⟨nonempty, decimal, value_eq, bounded⟩ => ⟨nonempty, decimal, value_eq, bounded⟩,
      fun ⟨nonempty, decimal, value_eq, bounded⟩ => ⟨nonempty, decimal, value_eq, bounded⟩⟩
  rw [spells]
  cases chars : text.toList with
  | nil =>
    rw [parseUnsigned_of_nil chars]
    simp [unsigned]
  | cons c rest =>
    by_cases plus : c = '+'
    · subst plus
      cases rest with
      | nil =>
        rw [parseUnsigned_of_sign_alone chars]
        simp [unsigned]
      | cons d later =>
        rw [parseUnsigned_of_sign chars (List.cons_ne_nil d later),
          digits_flatMap_eq_ok_iff _ _ (Nat.zero_le _)]
        simp [unsigned]
    · rw [parseUnsigned_of_unsigned chars plus, digits_flatMap_eq_ok_iff _ _ (Nat.zero_le _),
        unsigned_of_ne rest plus]
      simp

end Numeral

/-! ### Printing what was read -/

theorem digitChar_of_isDigit {c : Char} (digit : c.isDigit) : Nat.digitChar (c.toNat - 48) = c := by
  have range := Char.isDigit_iff_toNat.mp digit
  simp only [Char.reduceToNat] at range
  apply Char.toNat_inj.mp
  rw [Nat.toNat_digitChar_of_lt_ten (by omega)]
  omega

theorem toDigits_append (digits : List Char) {acc : Nat} (positive : 0 < acc)
    (decimal : ∀ c ∈ digits, c.isDigit) :
    Nat.toDigits 10 acc ++ digits = Nat.toDigits 10 (Nat.ofDigitChars 10 digits acc) := by
  induction digits generalizing acc with
  | nil => rw [List.append_nil, Nat.ofDigitChars_nil]
  | cons c rest ih =>
    have digit := decimal c List.mem_cons_self
    have range := Char.isDigit_iff_toNat.mp digit
    simp only [Char.reduceToNat] at range
    have shifted : Nat.toDigits 10 acc ++ [c] = Nat.toDigits 10 (10 * acc + (c.toNat - 48)) := by
      rw [← Nat.toDigits_append_toDigits (by decide) positive (by omega),
        Nat.toDigits_of_lt_base (show c.toNat - 48 < 10 by omega), digitChar_of_isDigit digit]
    calc Nat.toDigits 10 acc ++ c :: rest
        = Nat.toDigits 10 (10 * acc + (c.toNat - 48)) ++ rest := by
          rw [← shifted, List.append_assoc, List.singleton_append]
      _ = Nat.toDigits 10 (Nat.ofDigitChars 10 rest (10 * acc + (c.toNat - 48))) :=
          ih (by omega) fun d member => decimal d (List.mem_cons_of_mem c member)
      _ = Nat.toDigits 10 (Nat.ofDigitChars 10 (c :: rest) acc) := by
          rw [Nat.ofDigitChars_cons]
          rfl

theorem toDigits_ofDigitChars_of_lead {c : Char} (lead : c ≠ '0') (rest : List Char)
    (decimal : ∀ d ∈ c :: rest, d.isDigit) :
    Nat.toDigits 10 (Nat.ofDigitChars 10 (c :: rest) 0) = c :: rest := by
  have digit := decimal c List.mem_cons_self
  have range := Char.isDigit_iff_toNat.mp digit
  simp only [Char.reduceToNat] at range
  have nonzero : c.toNat ≠ 48 := fun zero => lead (Char.toNat_inj.mp zero)
  have single : Nat.toDigits 10 (c.toNat - 48) = [c] := by
    rw [Nat.toDigits_of_lt_base (by omega), digitChar_of_isDigit digit]
  rw [Nat.ofDigitChars_cons]
  simp only [Nat.mul_zero, Nat.zero_add, Char.reduceToNat]
  rw [← toDigits_append rest (by omega) fun d member => decimal d (List.mem_cons_of_mem c member),
    single]
  rfl

theorem toDigits_ofDigitChars (digits : List Char) (decimal : ∀ c ∈ digits, c.isDigit) :
    Nat.toDigits 10 (Nat.ofDigitChars 10 digits 0) = significant digits := by
  induction digits with
  | nil => rfl
  | cons c rest ih =>
    by_cases zero : c = '0'
    · subst zero
      have skipped : significant ('0' :: rest) = significant rest := by
        simp [significant]
      rw [skipped, Nat.ofDigitChars_cons, ← ih (fun d member => decimal d (List.mem_cons_of_mem _ member))]
      rfl
    · have kept : significant (c :: rest) = c :: rest := by
        simp [significant, zero]
      rw [kept, toDigits_ofDigitChars_of_lead zero rest decimal]

theorem toString_of_spells {bits : Nat} {text : String} {value : Nat}
    (spells : Spells bits text value) : toString value = canonical text := by
  rw [Nat.toString_eq_ofList_toDigits, ← spells.value_eq, toDigits_ofDigitChars _ spells.decimal]
  rfl

theorem parseUnsigned_toString {bits value : Nat} (small : value < 2 ^ bits) :
    parseUnsigned bits (toString value) = .ok value := by
  have digits : (toString value).toList = Nat.toDigits 10 value := by
    rw [Nat.toString_eq_ofList_toDigits, String.toList_ofList]
  have decimal : ∀ c ∈ Nat.toDigits 10 value, c.isDigit := fun c member =>
    Nat.isDigit_of_mem_toDigits (by decide) (by decide) member
  have unsignedDigits : unsigned (toString value).toList = Nat.toDigits 10 value := by
    rw [digits]
    obtain ⟨c, rest, opened⟩ := List.exists_cons_of_ne_nil (@Nat.toDigits_ne_nil value 10)
    rw [opened] at decimal ⊢
    refine unsigned_of_ne rest fun plus => ?_
    have := decimal c List.mem_cons_self
    rw [plus] at this
    contradiction
  rw [parseUnsigned_eq_ok_iff]
  refine ⟨?_, ?_, ?_, small⟩ <;> rw [unsignedDigits]
  · exact Nat.toDigits_ne_nil
  · exact decimal
  · exact Nat.ofDigitChars_ten_toDigits

end MemeEvents.IntegerText
