import MemeEvents.Bytes.Cursor

/-!
How many bytes a read takes. A fixed-width read consumes exactly its width: with that many bytes
left it returns and moves past them, and with fewer it fails for want of bytes.
-/

namespace MemeEvents

namespace Cursor

def advance (cursor : Cursor) (width : Nat) : Cursor :=
  ⟨cursor.rest.drop width, cursor.position + width⟩

@[simp] theorem remaining_advance (cursor : Cursor) (width : Nat) :
    (cursor.advance width).remaining = cursor.remaining - width := by
  simp [advance, remaining]

theorem advance_advance (cursor : Cursor) (first second : Nat) :
    (cursor.advance first).advance second = cursor.advance (first + second) := by
  simp only [advance, List.drop_drop, Nat.add_assoc]

theorem left_apply (cursor : Cursor) : left cursor = .ok cursor.remaining cursor := rfl

theorem run_of_ok {α : Type} {read : Read α} {bytes : List UInt8} {value : α} {next : Cursor}
    (ran : read (ofBytes bytes) = .ok value next) : run read bytes = .ok value := by
  unfold run EStateM.run
  rw [ran]

theorem run_of_error {α : Type} {read : Read α} {bytes : List UInt8} {fault : DecodeError}
    {next : Cursor} (failed : read (ofBytes bytes) = .error fault next) :
    run read bytes = .error fault := by
  unfold run EStateM.run
  rw [failed]

end Cursor

namespace Read

variable {α β : Type}

theorem bind_of_ok {read : Read α} {rest : α → Read β} {cursor next : Cursor} {value : α}
    (ran : read cursor = .ok value next) : (read >>= rest) cursor = rest value next := by
  show EStateM.bind read rest cursor = _
  unfold EStateM.bind
  rw [ran]

theorem bind_of_error {read : Read α} {rest : α → Read β} {cursor next : Cursor}
    {fault : DecodeError} (failed : read cursor = .error fault next) :
    (read >>= rest) cursor = .error fault next := by
  show EStateM.bind read rest cursor = _
  unfold EStateM.bind
  rw [failed]

theorem pure_apply (value : α) (cursor : Cursor) :
    (Pure.pure value : Read α) cursor = .ok value cursor := rfl

def ShortFails (read : Read α) (width : Nat) : Prop :=
  ∀ cursor : Cursor, cursor.remaining < width →
    ∃ needed left next, read cursor = .error (.outOfBounds needed left) next

/-- A read of exactly `width` bytes: with at least that many left it returns and moves past
them, with fewer it fails for want of bytes. -/
structure Consumes (read : Read α) (width : Nat) : Prop where
  returns : ∀ cursor : Cursor, width ≤ cursor.remaining →
    ∃ value, read cursor = .ok value (cursor.advance width)
  short : read.ShortFails width

structure Needs (read : Read α) (width : Nat) : Prop where
  returns : ∀ cursor : Cursor, width ≤ cursor.remaining → ∃ value next, read cursor = .ok value next
  short : read.ShortFails width

def Total (read : Read α) : Prop := ∀ cursor : Cursor, ∃ value next, read cursor = .ok value next

theorem Total.pure (value : α) : (Pure.pure value : Read α).Total :=
  fun cursor => ⟨value, cursor, rfl⟩

theorem Total.bind {read : Read α} {rest : α → Read β} (first : read.Total)
    (then_ : ∀ value, (rest value).Total) : (read >>= rest).Total := by
  intro cursor
  obtain ⟨value, next, ran⟩ := first cursor
  rw [bind_of_ok ran]
  exact then_ value next

theorem Total.needs {read : Read α} (total : read.Total) : read.Needs 0 :=
  ⟨fun cursor _ => total cursor, fun _ short => absurd short (Nat.not_lt_zero _)⟩

theorem Consumes.needs {read : Read α} {width : Nat} (consumes : read.Consumes width) :
    read.Needs width :=
  ⟨fun cursor enough => (consumes.returns cursor enough).imp fun _ ran => ⟨_, ran⟩,
    consumes.short⟩

theorem Consumes.bind_apply {read : Read α} {width : Nat} (consumes : read.Consumes width)
    (rest : α → Read β) (cursor : Cursor) (enough : width ≤ cursor.remaining) :
    ∃ value, (read >>= rest) cursor = rest value (cursor.advance width) :=
  (consumes.returns cursor enough).imp fun _ ran => bind_of_ok ran

theorem Consumes.bind_at {read : Read α} {width : Nat} (consumes : read.Consumes width)
    (rest : α → Read β) (cursor : Cursor) (offset : Nat)
    (enough : offset + width ≤ cursor.remaining) :
    ∃ value, (read >>= rest) (cursor.advance offset) =
      rest value (cursor.advance (offset + width)) := by
  obtain ⟨value, ran⟩ := consumes.bind_apply rest (cursor.advance offset)
    (by rw [Cursor.remaining_advance]; omega)
  exact ⟨value, by rw [ran, Cursor.advance_advance]⟩

theorem ShortFails.bind {read : Read α} {rest : α → Read β} {first second : Nat}
    (consumes : read.Consumes first) (then_ : ∀ value, (rest value).ShortFails second) :
    (read >>= rest).ShortFails (first + second) := by
  intro cursor short
  by_cases enough : first ≤ cursor.remaining
  · obtain ⟨value, ran⟩ := consumes.bind_apply rest cursor enough
    rw [ran]
    exact then_ value _ (by rw [Cursor.remaining_advance]; omega)
  · obtain ⟨needed, left, next, failed⟩ := consumes.short cursor (by omega)
    exact ⟨needed, left, next, bind_of_error failed⟩

theorem Consumes.bind {read : Read α} {rest : α → Read β} {first second : Nat}
    (consumes : read.Consumes first) (then_ : ∀ value, (rest value).Consumes second) :
    (read >>= rest).Consumes (first + second) := by
  refine ⟨fun cursor enough => ?_, ShortFails.bind consumes fun value => (then_ value).short⟩
  obtain ⟨value, ran⟩ := consumes.bind_apply rest cursor (by omega)
  obtain ⟨result, finished⟩ := (then_ value).returns (cursor.advance first)
    (by rw [Cursor.remaining_advance]; omega)
  rw [ran, finished, Cursor.advance_advance]
  exact ⟨result, rfl⟩

theorem Needs.bind {read : Read α} {rest : α → Read β} {first second : Nat}
    (consumes : read.Consumes first) (then_ : ∀ value, (rest value).Needs second) :
    (read >>= rest).Needs (first + second) := by
  refine ⟨fun cursor enough => ?_, ShortFails.bind consumes fun value => (then_ value).short⟩
  obtain ⟨value, ran⟩ := consumes.bind_apply rest cursor (by omega)
  rw [ran]
  exact (then_ value).returns _ (by rw [Cursor.remaining_advance]; omega)

theorem Consumes.pure (value : α) : (Pure.pure value : Read α).Consumes 0 :=
  ⟨fun _ _ => ⟨value, rfl⟩, fun _ short => absurd short (Nat.not_lt_zero _)⟩

theorem Consumes.bind_pure {read : Read α} {width : Nat} (consumes : read.Consumes width)
    (transform : α → β) : (read >>= fun value => Pure.pure (transform value)).Consumes width :=
  consumes.bind fun value => Consumes.pure (transform value)

end Read

namespace Cursor

theorem take_consumes (n : Nat) : (take n).Consumes n := by
  refine ⟨fun cursor enough => ?_, fun cursor short => ?_⟩
  · unfold take
    rw [dif_pos (show n ≤ cursor.rest.length from enough)]
    exact ⟨_, rfl⟩
  · unfold take
    rw [dif_neg (by unfold remaining at short; omega)]
    exact ⟨_, _, _, rfl⟩

theorem unsigned_consumes (width : Nat) : (unsigned width).Consumes width :=
  (take_consumes width).bind_pure _

theorem u8_consumes : u8.Consumes 1 := unsigned_consumes 1

theorem u64_consumes : u64.Consumes 8 := unsigned_consumes 8

theorem bool_consumes : bool.Consumes 1 := u8_consumes.bind_pure _

theorem i64_consumes : i64.Consumes 8 := (unsigned_consumes 8).bind_pure _

theorem pubkey_consumes : pubkey.Consumes 32 := (take_consumes 32).bind_pure _

/-! ### Reading what was written -/

def word (value : UInt64) : List UInt8 := Bytes.toLittleEndian 8 value.toNat

@[simp] theorem length_word (value : UInt64) : (word value).length = 8 :=
  Bytes.length_toLittleEndian 8 _

variable {rest : List UInt8} {position : Nat}

theorem take_append {front : List UInt8} {n : Nat} (sized : front.length = n) :
    take n ⟨front ++ rest, position⟩ = .ok ⟨front, sized⟩ ⟨rest, position + n⟩ := by
  subst sized
  unfold take
  rw [dif_pos (by simp)]
  simp only [List.take_left', List.drop_left']

theorem unsigned_append {front : List UInt8} {width : Nat} (sized : front.length = width) :
    unsigned width ⟨front ++ rest, position⟩ =
      .ok (Bytes.ofLittleEndian front) ⟨rest, position + width⟩ := by
  unfold unsigned
  rw [Read.bind_of_ok (take_append sized)]
  rfl

theorem u64_word (value : UInt64) :
    u64 ⟨word value ++ rest, position⟩ = .ok value.toNat ⟨rest, position + 8⟩ := by
  unfold u64
  rw [unsigned_append (length_word value), word, Bytes.ofLittleEndian_toLittleEndian,
    Nat.mod_eq_of_lt value.toNat_lt]

theorem u64_word_last (value : UInt64) :
    u64 ⟨word value, position⟩ = .ok value.toNat ⟨[], position + 8⟩ := by
  rw [← List.append_nil (word value)]
  exact u64_word value

theorem i64_append (front rest : List UInt8) (position : Nat) (sized : front.length = 8) :
    ∃ value, i64 ⟨front ++ rest, position⟩ = .ok value ⟨rest, position + 8⟩ := by
  unfold i64
  rw [Read.bind_of_ok (unsigned_append sized)]
  exact ⟨_, rfl⟩

theorem bool_cons (byte : UInt8) :
    bool ⟨byte :: rest, position⟩ = .ok (byte != 0) ⟨rest, position + 1⟩ := by
  unfold bool u8
  rw [show byte :: rest = [byte] ++ rest from rfl, Read.bind_of_ok (unsigned_append (show [byte].length = 1 from rfl))]
  have zero : byte.toNat + 256 * 0 = 0 ↔ byte = 0 := by
    rw [Nat.mul_zero, Nat.add_zero, ← UInt8.toNat_inj]
    rfl
  have same : (Bytes.ofLittleEndian [byte] != 0) = (byte != 0) := by
    rw [Bool.eq_iff_iff, bne_iff_ne, bne_iff_ne, ne_eq, ne_eq, ← zero]
    rfl
  rw [← same]
  rfl

theorem pubkey_append (key : Pubkey) :
    pubkey ⟨key.bytes ++ rest, position⟩ = .ok key ⟨rest, position + 32⟩ := by
  unfold pubkey
  rw [Read.bind_of_ok (take_append key.size_eq)]
  rfl

end Cursor

end MemeEvents
