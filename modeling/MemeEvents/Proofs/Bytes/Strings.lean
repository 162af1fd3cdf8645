import Mathlib.Algebra.Group.Nat.Defs
import MemeEvents.Proofs.Bytes.Widths
import MemeEvents.Proofs.Text.Utf8

/-! Strings as the programs write them, and reads that take exactly the bytes written for them. -/

namespace MemeEvents

def Cursor.counted (body : List UInt8) : List UInt8 := Bytes.toLittleEndian 4 body.length ++ body

namespace Read

variable {α β : Type}

def ShortOn (read : Read α) (front : List UInt8) : Prop :=
  ∀ k < front.length, ∀ position, ∃ needed left next,
    read ⟨front.take k, position⟩ = .error (.outOfBounds needed left) next

/-- `read` takes exactly `front`, as `value`. -/
structure Takes (read : Read α) (front : List UInt8) (value : α) : Prop where
  returns : ∀ rest position,
    read ⟨front ++ rest, position⟩ = .ok value ⟨rest, position + front.length⟩
  short : read.ShortOn front

theorem Consumes.shortOn {read : Read α} {width : Nat} (consumes : read.Consumes width)
    {front : List UInt8} (sized : front.length = width) : read.ShortOn front := by
  intro k cut position
  exact consumes.short ⟨front.take k, position⟩ (by simp [Cursor.remaining]; omega)

theorem ShortOn.bind_left {read : Read α} {front : List UInt8} (short : read.ShortOn front)
    (rest : α → Read β) : (read >>= rest).ShortOn front := by
  intro k cut position
  obtain ⟨needed, left, next, failed⟩ := short k cut position
  exact ⟨needed, left, next, bind_of_error failed⟩

theorem Takes.bind_apply {read : Read α} {front : List UInt8} {value : α}
    (takes : read.Takes front value) (rest : α → Read β) (more : List UInt8) (position : Nat) :
    (read >>= rest) ⟨front ++ more, position⟩ = rest value ⟨more, position + front.length⟩ :=
  bind_of_ok (takes.returns more position)

theorem ShortOn.bind {read : Read α} {rest : α → Read β} {front later : List UInt8} {value : α}
    (takes : read.Takes front value) (then_ : (rest value).ShortOn later) :
    (read >>= rest).ShortOn (front ++ later) := by
  intro k cut position
  by_cases inside : k < front.length
  · rw [List.take_append_of_le_length (Nat.le_of_lt inside)]
    exact takes.short.bind_left rest k inside position
  · have past : k - front.length < later.length := by
      rw [List.length_append] at cut
      omega
    rw [List.take_append, List.take_of_length_le (Nat.le_of_not_lt inside), takes.bind_apply]
    exact then_ (k - front.length) past _

theorem Takes.bind {read : Read α} {rest : α → Read β} {front later : List UInt8} {value : α}
    {result : β} (takes : read.Takes front value) (then_ : (rest value).Takes later result) :
    (read >>= rest).Takes (front ++ later) result where
  returns more position := by
    rw [List.append_assoc, takes.bind_apply, then_.returns, List.length_append, Nat.add_assoc]
  short := ShortOn.bind takes then_.short

theorem Takes.pure (value : α) : (Pure.pure value : Read α).Takes [] value :=
  ⟨fun _ _ => rfl, fun k cut => absurd cut (Nat.not_lt_zero k)⟩

theorem Takes.bind_of_pure {read : Read α} {rest : α → Read β} {front : List UInt8} {value : α}
    {result : β} (takes : read.Takes front value) (finish : rest value = Pure.pure result) :
    (read >>= rest).Takes front result where
  returns more position := by
    rw [takes.bind_apply, finish]
    rfl
  short := takes.short.bind_left rest

end Read

namespace Cursor

open Read

theorem take_takes (front : List UInt8) : (take front.length).Takes front ⟨front, rfl⟩ :=
  ⟨fun _ _ => take_append rfl, (take_consumes _).shortOn rfl⟩

theorem unsigned_takes {front : List UInt8} {width : Nat} (sized : front.length = width) :
    (unsigned width).Takes front (Bytes.ofLittleEndian front) :=
  ⟨fun _ _ => by rw [unsigned_append sized, sized], (unsigned_consumes width).shortOn sized⟩

theorem u8_takes {front : List UInt8} (sized : front.length = 1) :
    u8.Takes front (Bytes.ofLittleEndian front) :=
  unsigned_takes sized

theorem u64_takes {front : List UInt8} (sized : front.length = 8) :
    u64.Takes front (Bytes.ofLittleEndian front) :=
  unsigned_takes sized

theorem pubkey_takes (key : Pubkey) : pubkey.Takes key.bytes key :=
  ⟨fun _ _ => by rw [pubkey_append, key.size_eq], pubkey_consumes.shortOn key.size_eq⟩

@[simp] theorem length_counted (body : List UInt8) : (counted body).length = 4 + body.length := by
  simp [counted]

theorem u32_count {body : List UInt8} (fits : body.length < 2 ^ 32) :
    u32.Takes (Bytes.toLittleEndian 4 body.length) body.length := by
  have counts := unsigned_takes (Bytes.length_toLittleEndian 4 body.length)
  rwa [Bytes.ofLittleEndian_toLittleEndian, Nat.mod_eq_of_lt (lt_of_lt_of_eq fits (by decide))]
    at counts

theorem string_takes_of_valid {body : List UInt8} {text : String} (fits : body.length < 2 ^ 32)
    (valid : utf8? body = some text) : string.Takes (counted body) text := by
  unfold string
  refine Takes.bind (u32_count fits) (Takes.bind_of_pure (take_takes body) ?_)
  dsimp only
  rw [valid]

theorem string_of_invalid {body : List UInt8} (fits : body.length < 2 ^ 32)
    (invalid : utf8? body = none) (rest : List UInt8) (position : Nat) :
    ∃ next, string ⟨counted body ++ rest, position⟩ = .error .invalidUtf8 next := by
  unfold string
  rw [counted, List.append_assoc, (u32_count fits).bind_apply, (take_takes body).bind_apply]
  dsimp only
  rw [invalid]
  exact ⟨_, rfl⟩

theorem length_toUTF8_toList (text : String) : text.toUTF8.toList.length = text.utf8ByteSize := by
  rw [Utf8.toList_eq, Array.length_toList, ByteArray.size_data]
  rfl

theorem string_takes (text : String) (fits : text.utf8ByteSize < 2 ^ 32) :
    string.Takes (counted text.toUTF8.toList) text :=
  string_takes_of_valid (by rwa [length_toUTF8_toList]) (Utf8.utf8?_toUTF8 text)

end Cursor

end MemeEvents
