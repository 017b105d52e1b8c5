import RouteServer.Text.Utf8

/-! # Line feeds in encoded text

The encoding of a text has a byte 10 exactly where the text has a line feed, and different texts have
different encodings.
-/

namespace RouteServer.Utf8

theorem toList_loop_eq (bytes : ByteArray) (i : Nat) (read : List UInt8) :
    ByteArray.toList.loop bytes i read = read.reverse ++ bytes.data.toList.drop i := by
  fun_induction ByteArray.toList.loop bytes i read with
  | case1 i read h ih =>
    have hi : i < bytes.data.toList.length := h
    rw [ih, List.drop_eq_getElem_cons hi]
    simp [ByteArray.get!, h]
  | case2 i read h =>
    rw [List.drop_eq_nil_of_le (Nat.le_of_not_lt h)]
    simp

theorem encode_eq (text : String) : encode text = text.toList.flatMap String.utf8EncodeChar := by
  have hbytes : text.toUTF8 = (text.toList.flatMap String.utf8EncodeChar).toByteArray :=
    String.utf8Encode_toList.symm
  rw [encode, hbytes, ByteArray.toList, toList_loop_eq, List.toList_data_toByteArray]
  rfl

theorem encode_inj {a b : String} : encode a = encode b ↔ a = b := by
  refine ⟨fun h => ?_, congrArg encode⟩
  rw [encode_eq, encode_eq] at h
  rw [← String.toByteArray_inj, ← String.utf8Encode_toList, ← String.utf8Encode_toList]
  exact congrArg List.toByteArray h

theorem le_of_mem_utf8EncodeChar {c : Char} {b : UInt8} (hc : ¬ c.toNat ≤ 127)
    (hb : b ∈ String.utf8EncodeChar c) : 128 ≤ b.toNat := by
  have hval : ¬ c.val.toNat ≤ 127 := hc
  simp only [String.utf8EncodeChar, if_neg hval] at hb
  -- The cases are the sequences of two, three and four bytes.
  split at hb
  case isTrue =>
    simp only [List.mem_cons, List.not_mem_nil, or_false] at hb
    rcases hb with rfl | rfl <;> rw [UInt8.toNat_ofNat'] <;> omega
  case isFalse =>
    split at hb <;> simp only [List.mem_cons, List.not_mem_nil, or_false] at hb
    · rcases hb with rfl | rfl | rfl <;> rw [UInt8.toNat_ofNat'] <;> omega
    · rcases hb with rfl | rfl | rfl | rfl <;> rw [UInt8.toNat_ofNat'] <;> omega

theorem mem_utf8EncodeChar {c : Char} {b : UInt8} (hb : b.toNat < 128) :
    b ∈ String.utf8EncodeChar c ↔ c.toNat = b.toNat := by
  by_cases hc : c.toNat ≤ 127
  · have hval : c.val.toNat ≤ 127 := hc
    have hlt : c.toNat < 256 := by omega
    rw [String.utf8EncodeChar, if_pos hval, List.mem_singleton, ← UInt8.toNat_inj]
    change b.toNat = (UInt8.ofNat c.toNat).toNat ↔ _
    rw [UInt8.toNat_ofNat', Nat.mod_eq_of_lt hlt]
    exact eq_comm
  · refine ⟨fun hmem => ?_, fun h => ?_⟩
    · exact absurd (le_of_mem_utf8EncodeChar hc hmem) (by omega)
    · omega

theorem lineFeed_mem_encode {text : String} : 10 ∈ encode text ↔ '\n' ∈ text.toList := by
  rw [encode_eq, List.mem_flatMap]
  constructor
  · rintro ⟨c, hc, hb⟩
    rw [mem_utf8EncodeChar (by decide)] at hb
    obtain rfl : c = '\n' := Char.toNat_inj.mp hb
    exact hc
  · exact fun h => ⟨'\n', h, by decide⟩

end RouteServer.Utf8
