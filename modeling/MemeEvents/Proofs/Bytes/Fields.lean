import MemeEvents.Bytes.Field
import MemeEvents.Proofs.Decode.Reading

/-!
Fields read one after another from a payload. What a read does is said in terms of the payload and
of positions in it only.
-/

namespace MemeEvents

namespace Bytes

theorem ofLittleEndian_lt (bytes : List UInt8) :
    ofLittleEndian bytes < Nat.pow 256 bytes.length := by
  induction bytes with
  | nil => exact Nat.one_pos
  | cons byte rest induction =>
      have low : byte.toNat < 256 := byte.toNat_lt
      simp only [ofLittleEndian, List.length_cons, Nat.pow_eq, Nat.pow_succ] at induction ⊢
      omega

end Bytes

namespace Cursor

def Fixed {α : Type} (bytes : List UInt8) (width : Nat) (made : List UInt8 → α → Prop)
    (before : Nat) (outcome : Except DecodeError α) (after : Nat) : Prop :=
  if width ≤ bytes.length - before then
    (∃ value, outcome = .ok value ∧ made ((bytes.drop before).take width) value) ∧
      after = before + width
  else outcome = .error (.outOfBounds width (bytes.length - before)) ∧ after = before

def Counted {α : Type} (bytes : List UInt8) (text : String → α) (before : Nat)
    (outcome : Except DecodeError α) (after : Nat) : Prop :=
  if 4 ≤ bytes.length - before then
    let length := Bytes.ofLittleEndian ((bytes.drop before).take 4)
    if length ≤ bytes.length - (before + 4) then
      let body := (bytes.drop (before + 4)).take length
      (∀ value, utf8? body = some value → outcome = .ok (text value)) ∧
        (utf8? body = none → outcome = .error .invalidUtf8) ∧ after = before + 4 + length
    else
      outcome = .error (.outOfBounds length (bytes.length - (before + 4))) ∧ after = before + 4
  else outcome = .error (.outOfBounds 4 (bytes.length - before)) ∧ after = before

theorem Within.remaining_eq {cursor : Cursor} {bytes : List UInt8} (within : cursor.Within bytes) :
    cursor.remaining = bytes.length - cursor.position := by
  have counted := position_add_remaining within
  omega

theorem take_eq_ok {cursor next : Cursor} {n : Nat}
    {slice : {slice : List UInt8 // slice.length = n}} (taken : take n cursor = .ok slice next) :
    n ≤ cursor.remaining ∧ slice.val = cursor.rest.take n ∧
      next = ⟨cursor.rest.drop n, cursor.position + n⟩ := by
  unfold take at taken
  split at taken
  · cases taken
    exact ⟨‹_›, rfl, rfl⟩
  · cases taken

theorem take_eq_error {cursor next : Cursor} {n : Nat} {fault : DecodeError}
    (failed : take n cursor = .error fault next) :
    cursor.remaining < n ∧ fault = .outOfBounds n cursor.remaining ∧ next = cursor := by
  unfold take at failed
  split at failed
  · cases failed
  · cases failed
    exact ⟨by unfold remaining; omega, rfl, rfl⟩

end Cursor

def Read.Meets {α : Type} (read : Read α) (bytes : List UInt8)
    (spec : Nat → Except DecodeError α → Nat → Prop) : Prop :=
  ∀ cursor, cursor.Within bytes →
    (∀ value next, read cursor = .ok value next →
      next.Within bytes ∧ spec cursor.position (.ok value) next.position) ∧
    (∀ fault next, read cursor = .error fault next →
      next.Within bytes ∧ spec cursor.position (.error fault) next.position)

namespace Read.Meets

variable {α β : Type} {bytes : List UInt8}

theorem imp {read : Read α} {spec weaker : Nat → Except DecodeError α → Nat → Prop}
    (meets : read.Meets bytes spec)
    (implies : ∀ before outcome after, spec before outcome after → weaker before outcome after) :
    read.Meets bytes weaker := by
  intro cursor within
  obtain ⟨returned, failed⟩ := meets cursor within
  refine ⟨fun value next ran => ?_, fun fault next ran => ?_⟩
  · obtain ⟨nextWithin, holds⟩ := returned value next ran
    exact ⟨nextWithin, implies _ _ _ holds⟩
  · obtain ⟨nextWithin, holds⟩ := failed fault next ran
    exact ⟨nextWithin, implies _ _ _ holds⟩

theorem pure (value : α) :
    (Pure.pure value : Read α).Meets bytes fun before outcome after =>
      outcome = .ok value ∧ after = before := by
  intro cursor within
  refine ⟨fun _ _ returned => ?_, fun _ _ returned => (by cases returned)⟩
  cases returned
  exact ⟨within, rfl, rfl⟩

theorem throw (fault : DecodeError) :
    (MonadExcept.throw fault : Read α).Meets bytes fun before outcome after =>
      outcome = .error fault ∧ after = before := by
  intro cursor within
  refine ⟨fun _ _ returned => (by cases returned), fun _ _ returned => ?_⟩
  cases returned
  exact ⟨within, rfl, rfl⟩

theorem bind {read : Read α} {rest : α → Read β} {first : Nat → Except DecodeError α → Nat → Prop}
    {then_ : α → Nat → Except DecodeError β → Nat → Prop} (meets : read.Meets bytes first)
    (restMeets : ∀ value, (rest value).Meets bytes (then_ value)) :
    (read >>= rest).Meets bytes fun before outcome after =>
      (∃ fault, outcome = .error fault ∧ first before (.error fault) after) ∨
        ∃ value middle, first before (.ok value) middle ∧ then_ value middle outcome after := by
  intro cursor within
  change (∀ value next, EStateM.bind read rest cursor = _ → _) ∧
    (∀ fault next, EStateM.bind read rest cursor = _ → _)
  unfold EStateM.bind
  cases ran : read cursor with
  | ok value middle =>
      obtain ⟨middleWithin, firstHolds⟩ := (meets cursor within).1 value middle ran
      obtain ⟨returned, failed⟩ := restMeets value middle middleWithin
      refine ⟨fun result next finished => ?_, fun fault next finished => ?_⟩
      · obtain ⟨nextWithin, holds⟩ := returned result next finished
        exact ⟨nextWithin, .inr ⟨value, middle.position, firstHolds, holds⟩⟩
      · obtain ⟨nextWithin, holds⟩ := failed fault next finished
        exact ⟨nextWithin, .inr ⟨value, middle.position, firstHolds, holds⟩⟩
  | error fault middle =>
      obtain ⟨middleWithin, firstHolds⟩ := (meets cursor within).2 fault middle ran
      refine ⟨fun _ _ finished => (by cases finished), fun _ _ finished => ?_⟩
      cases finished
      exact ⟨middleWithin, .inl ⟨fault, rfl, firstHolds⟩⟩

theorem bind_pure {read : Read α} {spec : Nat → Except DecodeError α → Nat → Prop}
    {spec' : Nat → Except DecodeError β → Nat → Prop} (transform : α → β)
    (meets : read.Meets bytes spec)
    (implies : ∀ before outcome after, spec before outcome after →
      spec' before (outcome.map transform) after) :
    (read >>= fun value => Pure.pure (transform value)).Meets bytes spec' := by
  apply (bind meets fun value => pure (transform value)).imp
  rintro before outcome after (⟨fault, rfl, failed⟩ | ⟨value, middle, returned, rfl, rfl⟩)
  · exact implies _ _ _ failed
  · exact implies _ _ _ returned

theorem map {read : Read α} {spec : Nat → Except DecodeError α → Nat → Prop}
    {spec' : Nat → Except DecodeError β → Nat → Prop} (transform : α → β)
    (meets : read.Meets bytes spec)
    (implies : ∀ before outcome after, spec before outcome after →
      spec' before (outcome.map transform) after) :
    (transform <$> read).Meets bytes spec' := by
  rw [map_eq_pure_bind]
  exact bind_pure transform meets implies

theorem take (n : Nat) :
    (Cursor.take n).Meets bytes
      (Cursor.Fixed bytes n fun slice (taken : {slice : List UInt8 // slice.length = n}) =>
        taken.val = slice) := by
  intro cursor within
  have remaining := within.remaining_eq
  refine ⟨fun slice next taken => ?_, fun fault next failed => ?_⟩
  · obtain ⟨enough, sliced, rfl⟩ := Cursor.take_eq_ok taken
    refine ⟨Cursor.take_within within taken |>.2.2, ?_⟩
    unfold Cursor.Fixed
    rw [if_pos (by omega)]
    exact ⟨⟨slice, rfl, show slice.val = _ by rw [sliced, within.2]⟩, rfl⟩
  · obtain ⟨short, rfl, rfl⟩ := Cursor.take_eq_error failed
    refine ⟨within, ?_⟩
    unfold Cursor.Fixed
    rw [if_neg (by omega), remaining]
    exact ⟨rfl, rfl⟩

end Read.Meets

namespace Cursor

variable {bytes : List UInt8}

theorem Fixed.map {α β : Type} {width : Nat} {made : List UInt8 → α → Prop}
    {made' : List UInt8 → β → Prop} (transform : α → β)
    (implies : ∀ slice value, slice.length = width → made slice value →
      made' slice (transform value))
    {before after : Nat} {outcome : Except DecodeError α}
    (fixed : Fixed bytes width made before outcome after) :
    Fixed bytes width made' before (outcome.map transform) after := by
  unfold Fixed at fixed ⊢
  split
  · rename_i enough
    rw [if_pos enough] at fixed
    obtain ⟨⟨value, rfl, holds⟩, moved⟩ := fixed
    have sized : ((bytes.drop before).take width).length = width := by
      simp only [List.length_take, List.length_drop]
      omega
    exact ⟨⟨transform value, rfl, implies _ _ sized holds⟩, moved⟩
  · rename_i short
    rw [if_neg short] at fixed
    obtain ⟨rfl, moved⟩ := fixed
    exact ⟨rfl, moved⟩

end Cursor

namespace Read.Meets

variable {α β : Type} {bytes : List UInt8} {read : Read α} {width : Nat}
  {made : List UInt8 → α → Prop} {made' : List UInt8 → β → Prop}

theorem bind_pure_fixed (transform : α → β) (meets : read.Meets bytes (Cursor.Fixed bytes width made))
    (implies : ∀ slice value, slice.length = width → made slice value →
      made' slice (transform value)) :
    (read >>= fun value => Pure.pure (transform value)).Meets bytes
      (Cursor.Fixed bytes width made') :=
  meets.bind_pure transform fun _ _ _ fixed => fixed.map transform implies

theorem map_fixed (transform : α → β) (meets : read.Meets bytes (Cursor.Fixed bytes width made))
    (implies : ∀ slice value, slice.length = width → made slice value →
      made' slice (transform value)) :
    (transform <$> read).Meets bytes (Cursor.Fixed bytes width made') :=
  meets.map transform fun _ _ _ fixed => fixed.map transform implies

end Read.Meets

namespace Cursor

variable {bytes : List UInt8}

theorem unsigned_meets (width : Nat) :
    (unsigned width).Meets bytes
      (Fixed bytes width fun slice value => value = Bytes.ofLittleEndian slice) :=
  (Read.Meets.take width).bind_pure_fixed _ fun _ _ _ taken => by rw [taken]

theorem signed_eq_toInt {slice : List UInt8} (sized : slice.length = 8) :
    (if Bytes.ofLittleEndian slice < Nat.pow 2 63 then (Bytes.ofLittleEndian slice : Int)
      else (Bytes.ofLittleEndian slice : Int) - Nat.pow 2 64) =
      (BitVec.ofNat 64 (Bytes.ofLittleEndian slice)).toInt := by
  have bounded := Bytes.ofLittleEndian_lt slice
  rw [sized] at bounded
  have wide : Nat.pow 256 8 = Nat.pow 2 64 := rfl
  rw [BitVec.toInt_eq_toNat_cond, BitVec.toNat_ofNat, Nat.mod_eq_of_lt (by simpa [wide] using bounded)]
  simp only [Nat.pow_eq] at bounded ⊢
  split <;> split <;> omega

namespace Fixed

variable {α : Type} {width : Nat} {made : List UInt8 → α → Prop} {before after : Nat}

theorem of_ok {value : α} (fixed : Fixed bytes width made before (.ok value) after) :
    width ≤ bytes.length - before ∧ made ((bytes.drop before).take width) value ∧
      after = before + width := by
  unfold Fixed at fixed
  split at fixed
  · obtain ⟨⟨_, returned, holds⟩, moved⟩ := fixed
    cases returned
    exact ⟨‹_›, holds, moved⟩
  · cases fixed.1

theorem of_error {fault : DecodeError} (fixed : Fixed bytes width made before (.error fault) after) :
    bytes.length - before < width ∧ fault = .outOfBounds width (bytes.length - before) ∧
      after = before := by
  unfold Fixed at fixed
  split at fixed
  · obtain ⟨⟨_, returned, _⟩, _⟩ := fixed
    cases returned
  · obtain ⟨failed, stayed⟩ := fixed
    cases failed
    exact ⟨by omega, rfl, stayed⟩

end Fixed

theorem u8_meets : u8.Meets bytes
    (Fixed bytes 1 fun slice value => ∃ byte : UInt8, slice = [byte] ∧ value = byte.toNat) := by
  apply (unsigned_meets 1).imp
  intro before outcome after fixed
  simpa using fixed.map id fun slice value sized read => by
    obtain ⟨byte, rfl⟩ := List.length_eq_one_iff.mp sized
    exact ⟨byte, rfl, by simp [read, Bytes.ofLittleEndian]⟩

theorem bool_meets : bool.Meets bytes
    (Fixed bytes 1 fun slice value => ∃ byte : UInt8, slice = [byte] ∧ value = (byte != 0)) := by
  refine u8_meets.bind_pure_fixed _ fun _ _ _ ⟨byte, sliced, read⟩ => ⟨byte, sliced, ?_⟩
  have same : byte.toNat = 0 ↔ byte = 0 := by
    rw [← UInt8.toNat_inj]
    rfl
  rw [read, Bool.eq_iff_iff, bne_iff_ne, bne_iff_ne, ne_eq, ne_eq, same]

theorem i64_meets : i64.Meets bytes
    (Fixed bytes 8 fun slice value => value = (BitVec.ofNat 64 (Bytes.ofLittleEndian slice)).toInt) :=
  (unsigned_meets 8).bind_pure_fixed _ fun _ _ sized read => by
    rw [read, signed_eq_toInt sized]

theorem pubkey_meets : pubkey.Meets bytes (Fixed bytes 32 fun slice key => key.bytes = slice) :=
  (Read.Meets.take 32).bind_pure_fixed _ fun _ _ _ read => read

theorem skip_meets (count : Nat) : (skip count).Meets bytes (Fixed bytes count fun _ _ => True) :=
  (Read.Meets.take count).bind_pure_fixed _ fun _ _ _ _ => trivial

theorem fixed_meets (count : Nat) :
    (fixed count).Meets bytes (Fixed bytes count fun slice value => value = slice) :=
  (Read.Meets.take count).bind_pure_fixed _ fun _ _ _ read => read

theorem string_meets : string.Meets bytes (Counted bytes id) := by
  refine (Read.Meets.bind (unsigned_meets 4) fun length =>
    @Read.Meets.bind _ _ _ _ _ _ (fun body before outcome after =>
      after = before ∧ outcome = ((utf8? body.val).map .ok).getD (.error .invalidUtf8))
      (Read.Meets.take length) fun body => ?_).imp ?_
  · -- the text of the body, or a fault that leaves the cursor past the body
    cases utf8? body.val with
    | some text =>
        exact (Read.Meets.pure text).imp fun _ _ _ ⟨returned, stayed⟩ => ⟨stayed, returned⟩
    | none =>
        exact (Read.Meets.throw .invalidUtf8).imp fun _ _ _ ⟨failed, stayed⟩ => ⟨stayed, failed⟩
  · rintro before outcome after (⟨fault, rfl, prefixed⟩ | ⟨length, middle, prefixed, rest⟩)
    · -- no room for the length
      obtain ⟨short, rfl, rfl⟩ := prefixed.of_error
      dsimp only [Counted]
      rw [if_neg (by omega)]
      exact ⟨rfl, rfl⟩
    obtain ⟨enough, rfl, rfl⟩ := prefixed.of_ok
    dsimp only [Counted]
    rw [if_pos enough]
    rcases rest with ⟨fault, rfl, taken⟩ | ⟨body, next, taken, rfl, rfl⟩
    · -- the length is read, the body is missing
      obtain ⟨short, rfl, rfl⟩ := taken.of_error
      rw [if_neg (by omega)]
      exact ⟨rfl, rfl⟩
    · obtain ⟨fits, sliced, rfl⟩ := taken.of_ok
      rw [if_pos fits]
      refine ⟨fun value found => ?_, fun missing => ?_, rfl⟩
      · rw [sliced, found]
        rfl
      · rw [sliced, missing]
        rfl

theorem Counted.map {α : Type} (text : String → α) {before after : Nat}
    {outcome : Except DecodeError String} (counted : Counted bytes id before outcome after) :
    Counted bytes text before (outcome.map text) after := by
  dsimp only [Counted] at counted ⊢
  split
  · rename_i enough
    rw [if_pos enough] at counted
    split
    · rename_i fits
      rw [if_pos fits] at counted
      obtain ⟨returned, failed, moved⟩ := counted
      refine ⟨fun value found => ?_, fun missing => ?_, moved⟩
      · rw [returned value found]
        rfl
      · rw [failed missing]
        rfl
    · rename_i short
      rw [if_neg short] at counted
      obtain ⟨rfl, moved⟩ := counted
      exact ⟨rfl, moved⟩
  · rename_i short
    rw [if_neg short] at counted
    obtain ⟨rfl, moved⟩ := counted
    exact ⟨rfl, moved⟩

end Cursor

namespace Field

def Steps (bytes : List UInt8) : Field → Nat → Except DecodeError FieldValue → Nat → Prop
  | .u8 => Cursor.Fixed bytes 1 fun slice value =>
      ∃ byte : UInt8, slice = [byte] ∧ value = .number byte.toNat
  | .bool => Cursor.Fixed bytes 1 fun slice value =>
      ∃ byte : UInt8, slice = [byte] ∧ value = .flag (byte != 0)
  | .u16 => Cursor.Fixed bytes 2 fun slice value => value = .number (Bytes.ofLittleEndian slice)
  | .u32 => Cursor.Fixed bytes 4 fun slice value => value = .number (Bytes.ofLittleEndian slice)
  | .u64 => Cursor.Fixed bytes 8 fun slice value => value = .wide (Bytes.ofLittleEndian slice)
  | .i64 => Cursor.Fixed bytes 8 fun slice value =>
      value = .wide (BitVec.ofNat 64 (Bytes.ofLittleEndian slice)).toInt
  | .u128 => Cursor.Fixed bytes 16 fun slice value => value = .wide (Bytes.ofLittleEndian slice)
  | .pubkey => Cursor.Fixed bytes 32 fun slice value =>
      ∃ key : Pubkey, key.bytes = slice ∧ value = .key key
  | .skip count => Cursor.Fixed bytes count fun _ value => value = .nothing
  | .fixed count => Cursor.Fixed bytes count fun slice value => value = .bytes slice
  | .string => Cursor.Counted bytes .text

theorem read_meets (bytes : List UInt8) (field : Field) :
    field.read.Meets bytes (field.Steps bytes) := by
  cases field <;> dsimp only [read, Steps]
  case u8 =>
    exact Cursor.u8_meets.map_fixed _ fun _ _ _ ⟨byte, sliced, read⟩ => ⟨byte, sliced, by rw [read]⟩
  case bool =>
    exact Cursor.bool_meets.map_fixed _ fun _ _ _ ⟨byte, sliced, read⟩ => ⟨byte, sliced, by rw [read]⟩
  case u16 | u32 => exact (Cursor.unsigned_meets _).map_fixed _ fun _ _ _ read => by rw [read]
  case u64 | u128 => exact (Cursor.unsigned_meets _).map_fixed _ fun _ _ _ read => by rw [read]; rfl
  case i64 => exact Cursor.i64_meets.map_fixed _ fun _ _ _ read => by rw [read]
  case pubkey => exact Cursor.pubkey_meets.map_fixed _ fun _ key _ read => ⟨key, read, rfl⟩
  case string =>
    apply Cursor.string_meets.map
    intro before outcome after counted
    exact counted.map _
  case skip count => exact (Cursor.skip_meets count).map_fixed _ fun _ _ _ _ => rfl
  case fixed count => exact (Cursor.fixed_meets count).map_fixed _ fun _ _ _ read => by rw [read]

/-- The outcomes of reading `fields` one after another from `start`, each with the position it
left the cursor at, each as `Field.Steps` lays down from where the one before stopped. -/
inductive Trace (bytes : List UInt8) :
    List Field → Nat → List (Except DecodeError FieldValue × Nat) → Prop
  | nil (start : Nat) : Trace bytes [] start []
  | cons {field : Field} {fields : List Field} {start after : Nat}
      {outcome : Except DecodeError FieldValue} {steps : List (Except DecodeError FieldValue × Nat)} :
      field.Steps bytes start outcome after → Trace bytes fields after steps →
      Trace bytes (field :: fields) start ((outcome, after) :: steps)

theorem readAll_traced_from (bytes : List UInt8) (fields : List Field) {cursor : Cursor}
    (within : cursor.Within bytes) :
    Trace bytes fields cursor.position (readAll fields cursor).1 ∧
      (readAll fields cursor).2.Within bytes := by
  induction fields generalizing cursor with
  | nil => exact ⟨.nil _, within⟩
  | cons field fields induction =>
      obtain ⟨returned, failed⟩ := read_meets bytes field cursor within
      cases ran : field.read cursor with
      | ok value next =>
          obtain ⟨nextWithin, stepped⟩ := returned value next ran
          obtain ⟨traced, ended⟩ := induction nextWithin
          simp only [readAll, EStateM.run, ran]
          exact ⟨.cons stepped traced, ended⟩
      | error fault next =>
          obtain ⟨nextWithin, stepped⟩ := failed fault next ran
          obtain ⟨traced, ended⟩ := induction nextWithin
          simp only [readAll, EStateM.run, ran]
          exact ⟨.cons stepped traced, ended⟩

/-- Reading any fields one after another from the start of a payload: each read does what
`Steps` says from where the one before stopped, and afterwards the cursor's position and what is
left of the payload add up to its length, with the rest of the payload left to read. -/
theorem readAll_traced (bytes : List UInt8) (fields : List Field) :
    Trace bytes fields 0 (readAll fields (Cursor.ofBytes bytes)).1 ∧
      (readAll fields (Cursor.ofBytes bytes)).2.rest =
        bytes.drop (readAll fields (Cursor.ofBytes bytes)).2.position ∧
      (readAll fields (Cursor.ofBytes bytes)).2.position +
        (readAll fields (Cursor.ofBytes bytes)).2.remaining = bytes.length := by
  obtain ⟨traced, ended⟩ := readAll_traced_from bytes fields (Cursor.ofBytes_within bytes)
  exact ⟨traced, ended.2, Cursor.position_add_remaining ended⟩

end Field

end MemeEvents
