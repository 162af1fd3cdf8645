import MemeEvents.Bytes.Cursor

/-!
The UTF-8 bytes of a text. A text is written as the encodings of its characters one after another: a
character below 128 as the one byte of its code, any other with a first byte of at least 128.
-/

namespace MemeEvents.Utf8

theorem toList_loop (bytes : ByteArray) (start : Nat) (taken : List UInt8) :
    ByteArray.toList.loop bytes start taken = taken.reverse ++ bytes.data.toList.drop start := by
  fun_induction ByteArray.toList.loop bytes start taken with
  | case1 i r inside ih =>
    have inList : i < bytes.data.toList.length := by simpa using inside
    have read : bytes.get! i = bytes.data.toList[i] := by simp [ByteArray.get!, inside]
    rw [ih, read, List.reverse_cons, List.append_assoc, List.singleton_append,
      ← List.drop_eq_getElem_cons inList]
  | case2 i r outside =>
    have past : bytes.data.toList.drop i = [] := List.drop_eq_nil_of_le (by simp; omega)
    simp [past]

theorem toList_eq (bytes : ByteArray) : bytes.toList = bytes.data.toList := by
  simp [ByteArray.toList, toList_loop]

theorem toUTF8_toList (text : String) :
    text.toUTF8.toList = text.toList.flatMap String.utf8EncodeChar := by
  rw [toList_eq, String.toUTF8_eq_toByteArray, ← String.utf8Encode_toList, List.utf8Encode,
    List.data_toByteArray, List.toList_toArray]

theorem utf8?_toUTF8 (text : String) : Cursor.utf8? text.toUTF8.toList = some text := by
  unfold Cursor.utf8? String.fromUTF8?
  rw [toList_eq, String.toUTF8_eq_toByteArray, Array.toArray_toList, dif_pos text.isValidUTF8]
  rfl

theorem utf8EncodeChar_of_lt {c : Char} (ascii : c.toNat < 128) :
    String.utf8EncodeChar c = [c.toNat.toUInt8] := by
  unfold String.utf8EncodeChar
  rw [if_pos (show c.val.toNat ≤ 0x7f by simp only [Char.toNat] at ascii; omega)]
  rfl

theorem utf8EncodeChar_of_le {c : Char} (wide : 128 ≤ c.toNat) :
    ∃ byte more, String.utf8EncodeChar c = byte :: more ∧ 128 ≤ byte.toNat := by
  unfold String.utf8EncodeChar
  rw [if_neg (show ¬ c.val.toNat ≤ 0x7f by simp only [Char.toNat] at wide; omega)]
  -- the lead byte of a two-, three- or four-byte encoding is at least 0xc0, 0xe0 or 0xf0
  split
  · refine ⟨_, _, rfl, ?_⟩
    simp [UInt8.toNat_add, UInt8.toNat_ofNat]
    omega
  · split
    · refine ⟨_, _, rfl, ?_⟩
      simp [UInt8.toNat_add, UInt8.toNat_ofNat]
      omega
    · refine ⟨_, _, rfl, ?_⟩
      simp [UInt8.toNat_add, UInt8.toNat_ofNat]
      omega

end MemeEvents.Utf8
