import Mathlib.Data.List.TakeDrop
import MemeEvents.Chain.FlatIndex
import MemeEvents.Proofs.Chain.Order
import MemeEvents.Proofs.Decode.Outcomes
import MemeEvents.Proofs.Number.DecimalText

/-!
The text of an instruction position, and its sort key. A position is written as its outer index,
followed by a dash and its inner index for an inner instruction.
-/

namespace MemeEvents

namespace Position

def Fits (position : Position) : Prop :=
  position.outer < 2 ^ 32 ∧ ∀ inner ∈ position.inner, inner < 2 ^ 32

/-- `text` spells `position`: the numeral of the outer index alone, or the numerals of the outer
and the inner index joined by a dash. -/
inductive Spelled : String → Position → Prop
  | outer {text : String} {outer : Nat} : '-' ∉ text.toList → IntegerText.Spells 32 text outer →
      Spelled text ⟨outer, none⟩
  | inner {outerText innerText : String} {outer inner : Nat} : '-' ∉ outerText.toList →
      IntegerText.Spells 32 outerText outer → IntegerText.Spells 32 innerText inner →
      Spelled (outerText ++ "-" ++ innerText) ⟨outer, some inner⟩

/-! ### Reading -/

section Reading

variable {text : String}

theorem parse_of_undashed (undashed : '-' ∉ text.toList) :
    parse text = (IntegerText.parseUnsigned 32 text >>= fun outer => pure ⟨outer, none⟩) := by
  have kept : ∀ c ∈ text.toList, decide (c ≠ '-') = true := fun c member =>
    decide_eq_true fun dash => undashed (dash ▸ member)
  have whole : text.toList.span (· ≠ '-') = (text.toList, []) :=
    calc text.toList.span (· ≠ '-') = (text.toList ++ []).span (· ≠ '-') := by
          rw [List.append_nil]
      _ = (text.toList, []) := by
          rw [List.span_eq_takeWhile_dropWhile, List.takeWhile_append_of_pos kept,
            List.dropWhile_append_of_pos kept]
          simp
  unfold parse
  dsimp only
  rw [whole]
  simp only [String.ofList_toList]

theorem parse_of_dashed {outer inner : List Char} (split : text.toList = outer ++ '-' :: inner)
    (first : '-' ∉ outer) :
    parse text = (IntegerText.parseUnsigned 32 (String.ofList outer) >>= fun o =>
      IntegerText.parseUnsigned 32 (String.ofList inner) >>= fun i => pure ⟨o, some i⟩) := by
  have kept : ∀ c ∈ outer, decide (c ≠ '-') = true := fun c member =>
    decide_eq_true fun dash => first (dash ▸ member)
  have atDash : text.toList.span (· ≠ '-') = (outer, '-' :: inner) := by
    rw [List.span_eq_takeWhile_dropWhile, split, List.takeWhile_append_of_pos kept,
      List.dropWhile_append_of_pos kept]
    simp
  unfold parse
  dsimp only
  rw [atDash]

theorem exists_first_dash {chars : List Char} (dashed : '-' ∈ chars) :
    ∃ outer inner, chars = outer ++ '-' :: inner ∧ '-' ∉ outer := by
  induction chars with
  | nil => cases dashed
  | cons c rest ih =>
    by_cases dash : c = '-'
    · exact ⟨[], rest, by rw [dash]; rfl, List.not_mem_nil⟩
    · have later : '-' ∈ rest := by
        rcases List.mem_cons.mp dashed with here | later
        · exact absurd here.symm dash
        · exact later
      obtain ⟨outer, inner, split, first⟩ := ih later
      refine ⟨c :: outer, inner, by rw [split]; rfl, fun member => ?_⟩
      rcases List.mem_cons.mp member with here | earlier
      · exact dash here.symm
      · exact first earlier

theorem parse_eq_ok_iff (position : Position) : parse text = .ok position ↔ Spelled text position := by
  constructor
  · intro parsed
    by_cases dashed : '-' ∈ text.toList
    · obtain ⟨outer, inner, split, first⟩ := exists_first_dash dashed
      rw [parse_of_dashed split first] at parsed
      obtain ⟨o, outerRead, parsed⟩ := Except.bind_eq_ok parsed
      obtain ⟨i, innerRead, parsed⟩ := Except.bind_eq_ok parsed
      cases parsed
      have rejoined : text = String.ofList outer ++ "-" ++ String.ofList inner := by
        apply String.toList_inj.mp
        simp [split]
      rw [rejoined]
      exact .inner (by simpa using first) ((IntegerText.parseUnsigned_eq_ok_iff o).mp outerRead)
        ((IntegerText.parseUnsigned_eq_ok_iff i).mp innerRead)
    · rw [parse_of_undashed dashed] at parsed
      obtain ⟨o, outerRead, parsed⟩ := Except.bind_eq_ok parsed
      cases parsed
      exact .outer dashed ((IntegerText.parseUnsigned_eq_ok_iff o).mp outerRead)
  · intro spelled
    cases spelled with
    | outer undashed spells =>
      rw [parse_of_undashed undashed, (IntegerText.parseUnsigned_eq_ok_iff _).mpr spells]
      rfl
    | inner first outerSpells innerSpells =>
      rename_i outerText innerText o i
      have split : (outerText ++ "-" ++ innerText).toList =
          outerText.toList ++ '-' :: innerText.toList := by
        simp
      rw [parse_of_dashed split first, String.ofList_toList, String.ofList_toList,
        (IntegerText.parseUnsigned_eq_ok_iff _).mpr outerSpells,
        (IntegerText.parseUnsigned_eq_ok_iff _).mpr innerSpells]
      rfl

end Reading

/-! ### Printing -/

theorem parse_toText (position : Position) (fits : position.Fits) :
    parse position.toText = .ok position := by
  obtain ⟨outer, inner⟩ := position
  have outerSpells : IntegerText.Spells 32 (toString outer) outer :=
    (IntegerText.parseUnsigned_eq_ok_iff outer).mp (IntegerText.parseUnsigned_toString fits.1)
  -- a numeral's digits hold no dash
  have undashed : ∀ value : Nat, '-' ∉ (toString value).toList := by
    intro value member
    rw [Nat.toString_eq_ofList_toDigits, String.toList_ofList] at member
    have := Nat.isDigit_of_mem_toDigits (by decide) (by decide) member
    contradiction
  rw [parse_eq_ok_iff]
  cases inner with
  | none => exact .outer (undashed outer) outerSpells
  | some inner =>
    have innerSpells : IntegerText.Spells 32 (toString inner) inner :=
      (IntegerText.parseUnsigned_eq_ok_iff inner).mp
        (IntegerText.parseUnsigned_toString (fits.2 inner rfl))
    exact .inner (undashed outer) outerSpells innerSpells

theorem toText_of_spelled {text : String} {position : Position} (spelled : Spelled text position) :
    ('-' ∉ text.toList ∧ position.toText = IntegerText.canonical text) ∨
      ∃ outerText innerText, text = outerText ++ "-" ++ innerText ∧ '-' ∉ outerText.toList ∧
        position.toText = IntegerText.canonical outerText ++ "-" ++ IntegerText.canonical innerText := by
  cases spelled with
  | outer undashed spells =>
    exact .inl ⟨undashed, IntegerText.toString_of_spells spells⟩
  | inner first outerSpells innerSpells =>
    refine .inr ⟨_, _, rfl, first, ?_⟩
    rw [← IntegerText.toString_of_spells outerSpells, ← IntegerText.toString_of_spells innerSpells]
    rfl

/-! ### The sort key -/

theorem sortKey_eq_iff_of_before {first second : Position} (before : first.Before second) :
    first.sortKey = second.sortKey ↔ ∃ n, first = ⟨n, none⟩ ∧ second = ⟨n, some 0⟩ := by
  obtain ⟨firstOuter, firstInner⟩ := first
  obtain ⟨secondOuter, secondInner⟩ := second
  constructor
  · intro same
    simp only [sortKey, Prod.mk.injEq] at same
    obtain ⟨rfl, sameInner⟩ := same
    rcases before with less | ⟨_, stepLess⟩
    · exact absurd less (Nat.lt_irrefl _)
    · cases firstInner <;> cases secondInner <;> simp_all [step]
  · rintro ⟨n, equalFirst, equalSecond⟩
    rw [equalFirst, equalSecond]
    rfl

end Position

/-- Reading and printing positions, and their sort key. A position whose indices fit in 32 bits
reads back from its text; a text reads as a position exactly when it spells it; a position read
from a text prints as the text's numerals in canonical form; and along the flat list of every
transaction the sort key never decreases and stays the same only from an outer instruction to the
first instruction it invokes. -/
theorem Position.text_and_sortKey :
    (∀ position : Position, position.Fits → Position.parse position.toText = .ok position) ∧
    (∀ (text : String) (position : Position),
      Position.parse text = .ok position ↔ Position.Spelled text position) ∧
    (∀ (text : String) (position : Position), Position.parse text = .ok position →
      ('-' ∉ text.toList ∧ position.toText = IntegerText.canonical text) ∨
        ∃ outerText innerText, text = outerText ++ "-" ++ innerText ∧ '-' ∉ outerText.toList ∧
          position.toText =
            IntegerText.canonical outerText ++ "-" ++ IntegerText.canonical innerText) ∧
    (∀ view : View, ((FlatIndex.ofView view).all.map (·.position)).Pairwise fun first second =>
      Position.keyLE first second = true ∧
        (first.sortKey = second.sortKey ↔ ∃ n, first = ⟨n, none⟩ ∧ second = ⟨n, some 0⟩)) := by
  refine ⟨Position.parse_toText, fun text => Position.parse_eq_ok_iff,
    fun text position parsed => Position.toText_of_spelled ((Position.parse_eq_ok_iff _).mp parsed),
    fun view => ?_⟩
  exact (View.pairwise_before_flat view).imp fun before =>
    ⟨Position.keyLE_of_before before, Position.sortKey_eq_iff_of_before before⟩

/-- The third inner instruction of the eighth outer one reads back from its text, `7-2`, and the
text `+007-0` reads as the first inner instruction of that outer one, printed `7-0`. -/
theorem Position.text_of_inner_positions :
    Position.parse (Position.toText ⟨7, some 2⟩) = .ok ⟨7, some 2⟩ ∧
      Position.Spelled "+007-0" ⟨7, some 0⟩ :=
  ⟨Position.text_and_sortKey.1 ⟨7, some 2⟩ ⟨by decide, fun inner member => by cases member; decide⟩,
    (Position.text_and_sortKey.2.1 "+007-0" ⟨7, some 0⟩).mp
      (Except.eq_ok_of_toOption (by decide +kernel))⟩

end MemeEvents
