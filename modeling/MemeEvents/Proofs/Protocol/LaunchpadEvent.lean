import MemeEvents.Protocol.RaydiumLaunchpad
import MemeEvents.Proofs.Decode.Outcomes

/-!
The two layouts of the launchpad's trade event. A payload is read field after field by a cursor;
here the same payload is read at fixed offsets instead.
-/

namespace MemeEvents.RaydiumLaunchpad

def byteAt (payload : List UInt8) (offset : Nat) : Nat := (payload.getD offset 0).toNat

def wordAt (payload : List UInt8) (offset : Nat) : Nat :=
  Bytes.ofLittleEndian ((payload.drop offset).take 8)

def keyAt (payload : List UInt8) : Pubkey :=
  if h : 32 ≤ payload.length then ⟨payload.take 32, List.length_take_of_le h⟩ else Pubkey.zero

/-- Where the tag bytes of a layout start: after the key and twelve words, or thirteen with the
creator fee. -/
def tagOffset (withCreatorFee : Bool) : Nat := if withCreatorFee then 136 else 128

def tagged {α : Type} (variants : List α) (tag : Nat) : Except DecodeError α :=
  match variants[tag]? with
  | some value => .ok value
  | none => .error (layoutFault s!"Unexpected variant tag: {tag}")

def flagged (byte : Nat) : Except DecodeError Bool :=
  match byte with
  | 0 => .ok false
  | 1 => .ok true
  | other => .error (layoutFault s!"Invalid bool representation: {other}")

def decodeAt (withCreatorFee : Bool) (payload : List UInt8) : Except DecodeError TradeLog := do
  let tags := tagOffset withCreatorFee
  let direction ← tagged [Direction.buy, .sell] (byteAt payload tags)
  let status ← tagged [PoolStatus.fund, .migrate, .trade] (byteAt payload (tags + 1))
  let exactIn ← flagged (byteAt payload (tags + 2))
  pure ⟨keyAt payload, wordAt payload 88, wordAt payload 96, wordAt payload 104,
    wordAt payload 112, if withCreatorFee then wordAt payload 120 else 0,
    wordAt payload (tags - 8), direction, status, exactIn⟩

/-! ### Reading at known positions -/

def yieldFrom {α : Type} (read : Read α) (cursor : Cursor) : Except DecodeError α :=
  match read cursor with
  | .ok value _ => .ok value
  | .error fault _ => .error fault

section Reads

variable {α β : Type} {payload : List UInt8} {offset : Nat}

theorem run_eq_yieldFrom (read : Read α) (bytes : List UInt8) :
    Cursor.run read bytes = yieldFrom read (Cursor.ofBytes bytes) := rfl

theorem yieldFrom_bind_of_ok {read : Read α} {rest : α → Read β} {cursor next : Cursor}
    {value : α} (ran : read cursor = .ok value next) :
    yieldFrom (read >>= rest) cursor = yieldFrom (rest value) next := by
  show yieldFrom (EStateM.bind read rest) cursor = _
  unfold yieldFrom EStateM.bind
  rw [ran]

theorem take_at {n : Nat} (enough : offset + n ≤ payload.length) :
    Cursor.take n ⟨payload.drop offset, offset⟩ =
      .ok ⟨(payload.drop offset).take n, List.length_take_of_le (by simp; omega)⟩
        ⟨payload.drop (offset + n), offset + n⟩ := by
  unfold Cursor.take
  rw [dif_pos (by simp; omega), List.drop_drop]

theorem u64_at (enough : offset + 8 ≤ payload.length) :
    Cursor.u64 ⟨payload.drop offset, offset⟩ =
      .ok (wordAt payload offset) ⟨payload.drop (offset + 8), offset + 8⟩ := by
  show EStateM.bind (Cursor.take 8) _ _ = _
  unfold EStateM.bind
  rw [take_at enough]
  rfl

theorem pubkey_at (enough : 32 ≤ payload.length) :
    Cursor.pubkey (Cursor.ofBytes payload) = .ok (keyAt payload) ⟨payload.drop 32, 32⟩ := by
  have taken := @take_at payload 0 32 (by omega)
  show EStateM.bind (Cursor.take 32) _ ⟨payload.drop 0, 0⟩ = _
  unfold EStateM.bind
  rw [taken]
  simp only [keyAt, dif_pos enough, List.drop_zero, Nat.zero_add]
  rfl

theorem u8_at (inside : offset < payload.length) :
    Cursor.u8 ⟨payload.drop offset, offset⟩ =
      .ok (byteAt payload offset) ⟨payload.drop (offset + 1), offset + 1⟩ := by
  show EStateM.bind (Cursor.take 1) _ _ = _
  unfold EStateM.bind
  rw [take_at inside]
  have single : (payload.drop offset).take 1 = [payload[offset]] := by
    rw [List.drop_eq_getElem_cons inside]
    rfl
  have read : (payload.getD offset 0) = payload[offset] := by simp [inside]
  simp only [single, byteAt, read]
  show EStateM.Result.ok (payload[offset].toNat + 256 * 0) _ = _
  rw [Nat.mul_zero, Nat.add_zero]

theorem skipWords_at (indices : List Nat)
    (enough : offset + 8 * indices.length ≤ payload.length) :
    forIn indices PUnit.unit
        (fun _ _ => Cursor.u64 >>= fun _ => pure (ForInStep.yield PUnit.unit))
        ⟨payload.drop offset, offset⟩ =
      .ok PUnit.unit
        ⟨payload.drop (offset + 8 * indices.length), offset + 8 * indices.length⟩ := by
  induction indices generalizing offset with
  | nil => rfl
  | cons index indices induction =>
      simp only [List.length_cons] at enough
      rw [List.forIn_cons]
      show EStateM.bind (EStateM.bind Cursor.u64 _) _ _ = _
      unfold EStateM.bind
      rw [u64_at (by omega)]
      show (forIn indices PUnit.unit (fun _ _ => Cursor.u64 >>= fun _ => pure (ForInStep.yield
        PUnit.unit)) : Read PUnit) ⟨payload.drop (offset + 8), offset + 8⟩ = _
      rw [induction (by omega), List.length_cons]
      have moved : offset + 8 + 8 * indices.length = offset + 8 * (indices.length + 1) := by omega
      rw [moved]

theorem yieldFrom_variant_bind {γ : Type} (variants : List γ) (rest : γ → Read β)
    (inside : offset < payload.length) :
    yieldFrom (variant variants >>= rest) ⟨payload.drop offset, offset⟩ =
      tagged variants (byteAt payload offset) >>= fun value =>
        yieldFrom (rest value) ⟨payload.drop (offset + 1), offset + 1⟩ := by
  unfold variant
  rw [bind_assoc, yieldFrom_bind_of_ok (u8_at inside)]
  unfold tagged
  cases variants[byteAt payload offset]? <;> rfl

theorem yieldFrom_flag_bind (rest : Bool → Read β) (inside : offset < payload.length) :
    yieldFrom (flag >>= rest) ⟨payload.drop offset, offset⟩ =
      flagged (byteAt payload offset) >>= fun value =>
        yieldFrom (rest value) ⟨payload.drop (offset + 1), offset + 1⟩ := by
  unfold flag
  rw [bind_assoc, yieldFrom_bind_of_ok (u8_at inside)]
  unfold flagged
  rcases byteAt payload offset with _ | _ | other <;> rfl

end Reads

theorem readTradeLog_yield (withCreatorFee : Bool) {payload : List UInt8}
    (enough : tagOffset withCreatorFee + 3 ≤ payload.length) :
    yieldFrom (readTradeLog withCreatorFee) (Cursor.ofBytes payload) =
      decodeAt withCreatorFee payload := by
  have long : 131 ≤ payload.length := by
    unfold tagOffset at enough
    split at enough <;> omega
  unfold readTradeLog
  rw [Std.Legacy.Range.forIn_eq_forIn_range', yieldFrom_bind_of_ok (pubkey_at (by omega))]
  rw [yieldFrom_bind_of_ok (skipWords_at _ (by simp; omega))]
  have reserves : (List.range' 0 [:7].size).length = 7 := by simp
  rw [reserves, yieldFrom_bind_of_ok (u64_at (by omega)), yieldFrom_bind_of_ok (u64_at (by omega)),
    yieldFrom_bind_of_ok (u64_at (by omega)), yieldFrom_bind_of_ok (u64_at (by omega))]
  unfold decodeAt
  cases withCreatorFee
  · simp only [tagOffset, Bool.false_eq_true, if_false, pure_bind] at enough ⊢
    rw [yieldFrom_bind_of_ok (u64_at (by omega))]
    simp only [Nat.reduceAdd, Nat.reduceMul, yieldFrom_variant_bind _ _ (by omega : 128 < payload.length),
      yieldFrom_variant_bind _ _ (by omega : 129 < payload.length),
      yieldFrom_flag_bind _ (by omega : 130 < payload.length)]
    rfl
  · simp only [tagOffset, if_true] at enough ⊢
    rw [yieldFrom_bind_of_ok (u64_at (by omega)), yieldFrom_bind_of_ok (u64_at (by omega))]
    simp only [Nat.reduceAdd, Nat.reduceMul, yieldFrom_variant_bind _ _ (by omega : 136 < payload.length),
      yieldFrom_variant_bind _ _ (by omega : 137 < payload.length),
      yieldFrom_flag_bind _ (by omega : 138 < payload.length)]
    rfl

/-! ### The reader against the offsets -/

namespace TradeLog

theorem parse_of_short {payload : List UInt8} (short : payload.length < legacyLength) :
    parse payload = .error (.outOfBounds legacyLength payload.length) := by
  unfold parse
  rw [if_neg (by unfold currentLength legacyLength at *; omega), if_neg (by omega)]

theorem parse_eq_decodeAt {payload : List UInt8} (long : legacyLength ≤ payload.length) :
    parse payload = decodeAt (decide (currentLength ≤ payload.length)) payload := by
  unfold parse
  by_cases current : currentLength ≤ payload.length
  · rw [if_pos current, decide_eq_true current, run_eq_yieldFrom]
    exact readTradeLog_yield true current
  · rw [if_neg current, if_pos long, decide_eq_false current, run_eq_yieldFrom]
    exact readTradeLog_yield false long

end TradeLog

section Prefix

variable {payload : List UInt8} {length : Nat}

theorem byteAt_take {offset : Nat} (inside : offset < length) :
    byteAt (payload.take length) offset = byteAt payload offset := by
  simp [byteAt, List.getD_eq_getElem?_getD, List.getElem?_take_of_lt inside]

theorem wordAt_take {offset : Nat} (inside : offset + 8 ≤ length) :
    wordAt (payload.take length) offset = wordAt payload offset := by
  unfold wordAt
  rw [List.drop_take, List.take_take, Nat.min_eq_left (by omega)]

theorem keyAt_take (inside : 32 ≤ length) : keyAt (payload.take length) = keyAt payload := by
  unfold keyAt
  by_cases long : 32 ≤ payload.length
  · have taken : 32 ≤ (payload.take length).length := by simp; omega
    rw [dif_pos long, dif_pos taken]
    simp only [List.take_take, Nat.min_eq_left inside]
  · have taken : ¬ 32 ≤ (payload.take length).length := by simp; omega
    rw [dif_neg long, dif_neg taken]

theorem decodeAt_take (withCreatorFee : Bool) (inside : tagOffset withCreatorFee + 3 ≤ length) :
    decodeAt withCreatorFee (payload.take length) = decodeAt withCreatorFee payload := by
  have late : 128 ≤ tagOffset withCreatorFee := by
    unfold tagOffset
    split <;> omega
  dsimp only [decodeAt]
  rw [byteAt_take (by omega), byteAt_take (by omega), byteAt_take (by omega), keyAt_take (by omega),
    wordAt_take (by omega), wordAt_take (by omega), wordAt_take (by omega),
    wordAt_take (by omega), wordAt_take (by omega), wordAt_take (by omega)]

end Prefix

/-! ### Faults -/

def TagsInRange (payload : List UInt8) (offset : Nat) : Prop :=
  byteAt payload offset < 2 ∧ byteAt payload (offset + 1) < 3 ∧ byteAt payload (offset + 2) < 2

section Faults

variable {α β : Type}

theorem tagged_eq_ok_iff (variants : List α) (tag : Nat) :
    (∃ value, tagged variants tag = .ok value) ↔ tag < variants.length := by
  unfold tagged
  constructor
  · rintro ⟨value, found⟩
    split at found
    · rename_i listed
      exact (List.getElem?_eq_some_iff.mp listed).1
    · cases found
  · intro inside
    rw [List.getElem?_eq_getElem inside]
    exact ⟨_, rfl⟩

theorem tagged_eq_error {variants : List α} {tag : Nat} {fault : DecodeError}
    (failed : tagged variants tag = .error fault) : ∃ detail, fault = .invalidLayout detail := by
  unfold tagged at failed
  split at failed
  · cases failed
  · cases failed
    exact ⟨_, rfl⟩

theorem flagged_eq_ok_iff (byte : Nat) : (∃ value, flagged byte = .ok value) ↔ byte < 2 := by
  rcases byte with _ | _ | byte
  · exact ⟨fun _ => by omega, fun _ => ⟨false, rfl⟩⟩
  · exact ⟨fun _ => by omega, fun _ => ⟨true, rfl⟩⟩
  · exact ⟨fun ⟨_, found⟩ => (by cases found), fun large => (by omega)⟩

theorem flagged_eq_error {byte : Nat} {fault : DecodeError} (failed : flagged byte = .error fault) :
    ∃ detail, fault = .invalidLayout detail := by
  rcases byte with _ | _ | byte
  · cases failed
  · cases failed
  · cases failed
    exact ⟨_, rfl⟩

theorem decodeAt_eq_ok_iff (withCreatorFee : Bool) (payload : List UInt8) :
    (∃ trade, decodeAt withCreatorFee payload = .ok trade) ↔
      TagsInRange payload (tagOffset withCreatorFee) := by
  dsimp only [decodeAt, TagsInRange]
  constructor
  · rintro ⟨trade, returned⟩
    obtain ⟨direction, directionRead, returned⟩ := Except.bind_eq_ok returned
    obtain ⟨status, statusRead, returned⟩ := Except.bind_eq_ok returned
    obtain ⟨exactIn, exactInRead, -⟩ := Except.bind_eq_ok returned
    exact ⟨(tagged_eq_ok_iff _ _).mp ⟨_, directionRead⟩, (tagged_eq_ok_iff _ _).mp ⟨_, statusRead⟩,
      (flagged_eq_ok_iff _).mp ⟨_, exactInRead⟩⟩
  · rintro ⟨directionInside, statusInside, exactInInside⟩
    obtain ⟨direction, directionRead⟩ :=
      (tagged_eq_ok_iff [Direction.buy, .sell] _).mpr directionInside
    obtain ⟨status, statusRead⟩ :=
      (tagged_eq_ok_iff [PoolStatus.fund, .migrate, .trade] _).mpr statusInside
    obtain ⟨exactIn, exactInRead⟩ := (flagged_eq_ok_iff _).mpr exactInInside
    rw [directionRead, statusRead, exactInRead]
    exact ⟨_, rfl⟩

theorem decodeAt_eq_error {withCreatorFee : Bool} {payload : List UInt8} {fault : DecodeError}
    (failed : decodeAt withCreatorFee payload = .error fault) :
    ∃ detail, fault = .invalidLayout detail := by
  dsimp only [decodeAt] at failed
  rcases Except.bind_eq_error failed with directionFailed | ⟨_, -, failed⟩
  · exact tagged_eq_error directionFailed
  rcases Except.bind_eq_error failed with statusFailed | ⟨_, -, failed⟩
  · exact tagged_eq_error statusFailed
  rcases Except.bind_eq_error failed with exactInFailed | ⟨_, -, failed⟩
  · exact flagged_eq_error exactInFailed
  · cases failed

theorem decodeAt_eq_invalidLayout_iff (withCreatorFee : Bool) (payload : List UInt8) :
    (∃ detail, decodeAt withCreatorFee payload = .error (.invalidLayout detail)) ↔
      ¬ TagsInRange payload (tagOffset withCreatorFee) := by
  rw [← decodeAt_eq_ok_iff]
  constructor
  · rintro ⟨detail, failed⟩ ⟨trade, returned⟩
    rw [failed] at returned
    cases returned
  · intro notOk
    cases decoded : decodeAt withCreatorFee payload with
    | ok trade => exact absurd ⟨trade, decoded⟩ notOk
    | error fault =>
        obtain ⟨detail, rfl⟩ := decodeAt_eq_error decoded
        exact ⟨detail, rfl⟩

end Faults

/-! ### Writing a trade -/

def Direction.tag : Direction → UInt8
  | .buy => 0
  | .sell => 1

def PoolStatus.tag : PoolStatus → UInt8
  | .fund => 0
  | .migrate => 1
  | .trade => 2

def words (values : List Nat) : List UInt8 := values.flatMap (Bytes.toLittleEndian 8)

namespace TradeLog

def amounts (withCreatorFee : Bool) (trade : TradeLog) : List Nat :=
  [trade.amountIn, trade.amountOut, trade.protocolFee, trade.platformFee] ++
    (if withCreatorFee then [trade.creatorFee] else []) ++ [trade.shareFee]

def encode (withCreatorFee : Bool) (reserves : Fin 7 → Nat) (trade : TradeLog) : List UInt8 :=
  trade.poolState.bytes ++ (words (List.ofFn reserves ++ trade.amounts withCreatorFee) ++
    [trade.direction.tag, trade.status.tag, if trade.exactIn then 1 else 0])

def Fits (trade : TradeLog) : Prop :=
  ∀ amount ∈ trade.amounts true, amount < Nat.pow 256 8

instance (trade : TradeLog) : Decidable trade.Fits :=
  inferInstanceAs (Decidable (∀ amount ∈ trade.amounts true, amount < Nat.pow 256 8))

end TradeLog

section Writing

theorem length_words (values : List Nat) : (words values).length = 8 * values.length := by
  induction values with
  | nil => rfl
  | cons value values induction =>
      simp only [words, List.flatMap_cons, List.length_append, Bytes.length_toLittleEndian,
        List.length_cons] at induction ⊢
      omega

theorem drop_words (values : List Nat) (rest : List UInt8) {index : Nat}
    (inside : index ≤ values.length) :
    (words values ++ rest).drop (8 * index) = words (values.drop index) ++ rest := by
  induction values generalizing index with
  | nil =>
      simp only [List.length_nil, Nat.le_zero] at inside
      subst inside
      rfl
  | cons value values induction =>
      cases index with
      | zero => rfl
      | succ index =>
          simp only [List.length_cons] at inside
          have split : 8 * (index + 1) = (Bytes.toLittleEndian 8 value).length + 8 * index := by
            rw [Bytes.length_toLittleEndian]
            omega
          simp only [words, List.flatMap_cons, List.append_assoc] at induction ⊢
          rw [split, List.drop_length_add_append, induction (by omega), List.drop_succ_cons]

theorem wordAt_words (values : List Nat) (rest : List UInt8) {index : Nat}
    (inside : index < values.length) :
    wordAt (words values ++ rest) (8 * index) = values[index] % Nat.pow 256 8 := by
  unfold wordAt
  rw [drop_words values rest (by omega), List.drop_eq_getElem_cons inside]
  simp only [words, List.flatMap_cons, List.append_assoc]
  rw [List.take_left' (Bytes.length_toLittleEndian 8 _), Bytes.ofLittleEndian_toLittleEndian]

theorem wordAt_append (front rest : List UInt8) (offset : Nat) :
    wordAt (front ++ rest) (front.length + offset) = wordAt rest offset := by
  unfold wordAt
  rw [List.drop_length_add_append]

theorem byteAt_append (front rest : List UInt8) (offset : Nat) :
    byteAt (front ++ rest) (front.length + offset) = byteAt rest offset := by
  simp [byteAt, List.getD_eq_getElem?_getD, List.getElem?_append_right]

theorem keyAt_append (key : Pubkey) (rest : List UInt8) : keyAt (key.bytes ++ rest) = key := by
  have long : 32 ≤ (key.bytes ++ rest).length := by
    rw [List.length_append, key.size_eq]
    omega
  unfold keyAt
  rw [dif_pos long]
  cases key with
  | mk bytes sized =>
      simp only [Pubkey.mk.injEq]
      exact List.take_left' sized

theorem byteAt_cons_zero (byte : UInt8) (rest : List UInt8) : byteAt (byte :: rest) 0 = byte.toNat :=
  rfl

theorem byteAt_cons_succ (byte : UInt8) (rest : List UInt8) (offset : Nat) :
    byteAt (byte :: rest) (offset + 1) = byteAt rest offset :=
  rfl

theorem tagged_direction (direction : Direction) :
    tagged [Direction.buy, .sell] direction.tag.toNat = .ok direction := by
  cases direction <;> rfl

theorem tagged_status (status : PoolStatus) :
    tagged [PoolStatus.fund, .migrate, .trade] status.tag.toNat = .ok status := by
  cases status <;> rfl

theorem flagged_flag (flag : Bool) : flagged (if flag then (1 : UInt8) else 0).toNat = .ok flag := by
  cases flag <;> rfl

theorem amounts_sublist (withCreatorFee : Bool) (trade : TradeLog) :
    (trade.amounts withCreatorFee).Sublist (trade.amounts true) := by
  cases withCreatorFee
  · exact ((List.Sublist.refl _).append (List.nil_sublist _)).append (List.Sublist.refl _)
  · exact List.Sublist.refl _

theorem decodeAt_encode (withCreatorFee : Bool) (reserves : Fin 7 → Nat) {trade : TradeLog}
    (fits : trade.Fits) (noFee : withCreatorFee = false → trade.creatorFee = 0)
    (suffix : List UInt8) :
    decodeAt withCreatorFee (trade.encode withCreatorFee reserves ++ suffix) = .ok trade := by
  have layout : trade.encode withCreatorFee reserves ++ suffix = trade.poolState.bytes ++
      (words (List.ofFn reserves ++ trade.amounts withCreatorFee) ++
        ([trade.direction.tag, trade.status.tag, if trade.exactIn then 1 else 0] ++ suffix)) := by
    simp only [TradeLog.encode, List.append_assoc]
  have counted : (trade.amounts withCreatorFee).length = if withCreatorFee then 6 else 5 := by
    cases withCreatorFee <;> rfl
  -- the amount `index` is the word `7 + index`, after the reserve words
  have word : ∀ index offset, offset = 32 + 8 * (7 + index) →
      ∀ inside : index < (trade.amounts withCreatorFee).length,
      wordAt (trade.encode withCreatorFee reserves ++ suffix) offset =
        (trade.amounts withCreatorFee)[index] := by
    intro index offset placed inside
    have offset : offset = trade.poolState.bytes.length + 8 * (7 + index) := by
      rw [trade.poolState.size_eq, placed]
    have bound : 7 + index < (List.ofFn reserves ++ trade.amounts withCreatorFee).length := by
      simp only [List.length_append, List.length_ofFn]
      omega
    have listed : (List.ofFn reserves ++ trade.amounts withCreatorFee)[7 + index] =
        (trade.amounts withCreatorFee)[index] := by
      simp only [List.getElem_append_right, List.length_ofFn, Nat.le_add_right,
        Nat.add_sub_cancel_left]
    rw [layout, offset, wordAt_append, wordAt_words _ _ (by simp; omega), listed]
    exact Nat.mod_eq_of_lt (fits _ ((amounts_sublist withCreatorFee trade).subset
      (List.getElem_mem inside)))
  -- the tags follow the words
  have tag : ∀ index, byteAt (trade.encode withCreatorFee reserves ++ suffix)
      (tagOffset withCreatorFee + index) =
        byteAt ([trade.direction.tag, trade.status.tag, if trade.exactIn then 1 else 0] ++ suffix)
          index := by
    intro index
    have offset : tagOffset withCreatorFee + index = trade.poolState.bytes.length +
        ((words (List.ofFn reserves ++ trade.amounts withCreatorFee)).length + index) := by
      rw [trade.poolState.size_eq, length_words, List.length_append, List.length_ofFn, counted]
      cases withCreatorFee <;> simp only [tagOffset, Bool.false_eq_true, if_true, if_false] <;> omega
    rw [layout, offset, byteAt_append, byteAt_append]
  have direction := tag 0
  rw [Nat.add_zero] at direction
  dsimp only [decodeAt]
  rw [direction, tag 1, tag 2, layout, keyAt_append, ← layout]
  simp only [List.cons_append, byteAt_cons_zero, byteAt_cons_succ, tagged_direction, tagged_status,
    flagged_flag]
  cases withCreatorFee
  · rw [word 0 88 rfl (by simp [counted]), word 1 96 rfl (by simp [counted]),
      word 2 104 rfl (by simp [counted]), word 3 112 rfl (by simp [counted]),
      word 4 (tagOffset false - 8) rfl (by simp [counted])]
    show Except.ok (TradeLog.mk trade.poolState trade.amountIn trade.amountOut trade.protocolFee
      trade.platformFee 0 trade.shareFee trade.direction trade.status trade.exactIn) = _
    rw [← noFee rfl]
  · rw [word 0 88 rfl (by simp [counted]), word 1 96 rfl (by simp [counted]),
      word 2 104 rfl (by simp [counted]), word 3 112 rfl (by simp [counted]),
      word 4 120 rfl (by simp [counted]), word 5 (tagOffset true - 8) rfl (by simp [counted])]
    rfl

theorem length_encode (withCreatorFee : Bool) (reserves : Fin 7 → Nat) (trade : TradeLog) :
    (trade.encode withCreatorFee reserves).length = tagOffset withCreatorFee + 3 := by
  simp only [TradeLog.encode, List.length_append, trade.poolState.size_eq, length_words,
    List.length_ofFn, List.length_cons, List.length_nil]
  cases withCreatorFee <;> rfl

end Writing

/-! ### The layouts -/

namespace TradeLog

variable {payload : List UInt8}

theorem parse_legacy (long : 131 ≤ payload.length) (short : payload.length < 139) :
    parse payload = decodeAt false payload ∧ parse payload = parse (payload.take 131) := by
  have legacy : decide (currentLength ≤ payload.length) = false := decide_eq_false (by
    unfold currentLength
    omega)
  have taken : (payload.take 131).length = 131 := List.length_take_of_le long
  have takenLegacy : decide (currentLength ≤ (payload.take 131).length) = false := by
    rw [taken]
    rfl
  rw [parse_eq_decodeAt long, legacy, parse_eq_decodeAt (by rw [taken]; exact Nat.le_refl _),
    takenLegacy,
    decodeAt_take false (by decide)]
  exact ⟨rfl, rfl⟩

theorem parse_current (long : 139 ≤ payload.length) :
    parse payload = decodeAt true payload ∧ parse payload = parse (payload.take 139) := by
  have current : decide (currentLength ≤ payload.length) = true := decide_eq_true long
  have taken : (payload.take 139).length = 139 := List.length_take_of_le long
  have takenCurrent : decide (currentLength ≤ (payload.take 139).length) = true := by
    rw [taken]
    rfl
  rw [parse_eq_decodeAt (by unfold legacyLength; omega), current,
    parse_eq_decodeAt (by rw [taken]; decide), takenCurrent, decodeAt_take true (by decide)]
  exact ⟨rfl, rfl⟩

theorem parse_eq_invalidLayout_iff (long : 131 ≤ payload.length) :
    ((∃ detail, parse payload = .error (.invalidLayout detail)) ↔
      ¬ TagsInRange payload (tagOffset (decide (139 ≤ payload.length)))) ∧
    ∀ fault, parse payload = .error fault → ∃ detail, fault = .invalidLayout detail := by
  rw [parse_eq_decodeAt long]
  exact ⟨decodeAt_eq_invalidLayout_iff _ payload, fun _ failed => decodeAt_eq_error failed⟩

theorem parse_encode (withCreatorFee : Bool) (reserves : Fin 7 → Nat) {trade : TradeLog}
    (fits : trade.Fits) (noFee : withCreatorFee = false → trade.creatorFee = 0)
    {suffix : List UInt8} (selects : decide (139 ≤ (trade.encode withCreatorFee reserves ++
      suffix).length) = withCreatorFee) :
    parse (trade.encode withCreatorFee reserves ++ suffix) = .ok trade := by
  have long : 131 ≤ (trade.encode withCreatorFee reserves ++ suffix).length := by
    rw [List.length_append, length_encode]
    cases withCreatorFee <;> simp only [tagOffset, Bool.false_eq_true, if_true, if_false] <;> omega
  have selected : decide (currentLength ≤ (trade.encode withCreatorFee reserves ++ suffix).length) =
      withCreatorFee := selects
  rw [parse_eq_decodeAt long, selected]
  exact decodeAt_encode withCreatorFee reserves fits noFee suffix

/-- How a trade event's payload is read. Shorter than 131 bytes, it is too short by what the
legacy layout needs; from 131 to 138 bytes it is read at the offsets of the legacy layout, and
from 139 bytes on at those of the current one, in either case from the layout's own bytes only;
it fails exactly when a tag byte names no variant, and then with a layout fault. A trade whose
amounts fit in words, written in the current layout with any reserve words, reads back as itself
whatever follows; so does one without a creator fee written in the legacy layout, when fewer
bytes than a word follow. -/
theorem parse_layouts :
    (∀ payload : List UInt8, payload.length < 131 →
      parse payload = .error (.outOfBounds 131 payload.length)) ∧
    (∀ payload : List UInt8, 131 ≤ payload.length → payload.length < 139 →
      parse payload = decodeAt false payload ∧ parse payload = parse (payload.take 131)) ∧
    (∀ payload : List UInt8, 139 ≤ payload.length →
      parse payload = decodeAt true payload ∧ parse payload = parse (payload.take 139)) ∧
    (∀ payload : List UInt8, 131 ≤ payload.length →
      ((∃ detail, parse payload = .error (.invalidLayout detail)) ↔
        ¬ TagsInRange payload (tagOffset (decide (139 ≤ payload.length)))) ∧
      ∀ fault, parse payload = .error fault → ∃ detail, fault = .invalidLayout detail) ∧
    (∀ (reserves : Fin 7 → Nat) (trade : TradeLog) (suffix : List UInt8), trade.Fits →
      parse (trade.encode true reserves ++ suffix) = .ok trade) ∧
    (∀ (reserves : Fin 7 → Nat) (trade : TradeLog) (suffix : List UInt8), trade.Fits →
      trade.creatorFee = 0 → suffix.length < 8 →
      parse (trade.encode false reserves ++ suffix) = .ok trade) := by
  refine ⟨fun _ short => parse_of_short short, fun _ long short => parse_legacy long short,
    fun _ long => parse_current long, fun _ long => parse_eq_invalidLayout_iff long,
    fun reserves trade suffix fits => ?_, fun reserves trade suffix fits noFee short => ?_⟩
  · apply parse_encode true reserves fits (fun wrong => absurd wrong Bool.noConfusion)
    rw [List.length_append, length_encode]
    exact decide_eq_true (by unfold tagOffset; simp only [if_true]; omega)
  · apply parse_encode false reserves fits (fun _ => noFee)
    rw [List.length_append, length_encode]
    exact decide_eq_false (by unfold tagOffset; simp only [Bool.false_eq_true, if_false]; omega)

/-- A sale written in the current layout with two more bytes after it reads back. -/
theorem parse_written_sale :
    Fits ⟨Pubkey.zero, 5, 7, 1, 2, 3, 4, .sell, .trade, true⟩ ∧
      parse ((TradeLog.mk Pubkey.zero 5 7 1 2 3 4 .sell .trade true).encode true (fun _ => 0) ++
        [9, 9]) = .ok ⟨Pubkey.zero, 5, 7, 1, 2, 3, 4, .sell, .trade, true⟩ :=
  ⟨by decide, parse_layouts.2.2.2.2.1 (fun _ => 0) _ [9, 9] (by decide)⟩

end TradeLog

end MemeEvents.RaydiumLaunchpad
