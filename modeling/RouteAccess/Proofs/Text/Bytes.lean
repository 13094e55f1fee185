/-
RouteAccess/Proofs/Text/Bytes.lean

Texts and their bytes.  The bytes of a text, listed one by one, are read as this text; and
a text with one character for each byte has these bytes, as long as they are in ASCII.
-/

namespace RouteAccess

namespace Text

/-- The loop collects the bytes from a place on, in reverse. -/
theorem toList_loop (bytes : ByteArray) (i : Nat) (acc : List UInt8) :
    ByteArray.toList.loop bytes i acc = acc.reverse ++ bytes.data.toList.drop i := by
  fun_induction ByteArray.toList.loop bytes i acc with
  | case1 i acc hlt ih =>
    have hi : i < bytes.data.toList.length := hlt
    have hget : bytes.get! i = bytes.data.toList[i] := by
      rw [Array.getElem_toList]
      exact getElem!_pos bytes.data i hlt
    rw [ih, List.drop_eq_getElem_cons hi, List.reverse_cons, List.append_assoc,
      List.singleton_append, hget]
  | case2 i acc hge =>
    rw [List.drop_eq_nil_of_le (Nat.not_lt.mp hge), List.append_nil]

/-- The bytes in a list are those in the array. -/
theorem toList_eq (bytes : ByteArray) : bytes.toList = bytes.data.toList :=
  toList_loop bytes 0 []

/-- The bytes of a text are read as this text. -/
theorem fromUTF8?_eq_some (s : String) : String.fromUTF8? s.toUTF8 = some s := by
  rw [String.toUTF8_eq_toByteArray, String.fromUTF8?, dif_pos s.isValidUTF8]
  rfl

/-- The bytes of a text are read as this text when they are listed one by one. -/
theorem fromUTF8?_toUTF8 (s : String) : String.fromUTF8? ⟨s.toUTF8.toList.toArray⟩ = some s := by
  have hbytes : (⟨s.toUTF8.toList.toArray⟩ : ByteArray) = s.toUTF8 := by
    rw [toList_eq, Array.toArray_toList]
  rw [hbytes, fromUTF8?_eq_some]

/-- A character in ASCII is one byte. -/
theorem utf8EncodeChar_ofNat {b : UInt8} (h : b.toNat < 128) :
    String.utf8EncodeChar (Char.ofNat b.toNat) = [b] := by
  have hval : (Char.ofNat b.toNat).val.toNat = b.toNat := by
    rw [Char.ofNat, dif_pos (Or.inl (by omega))]
    rfl
  have hsize : (Char.ofNat b.toNat).utf8Size = 1 := by
    rw [Char.utf8Size_eq_one_iff, UInt32.le_iff_toNat_le, hval]
    exact Nat.lt_succ_iff.mp h
  rw [String.utf8EncodeChar_eq_singleton hsize]
  congr 1
  rw [← UInt8.toNat_inj, UInt32.toNat_toUInt8, hval]
  omega

/-- A text with one character for each byte has these bytes, if they are in ASCII. -/
theorem toUTF8_ofBytes {bytes : List UInt8} (h : ∀ b ∈ bytes, b.toNat < 128) :
    (String.ofList (bytes.map fun b => Char.ofNat b.toNat)).toUTF8.toList = bytes := by
  rw [String.toUTF8_eq_toByteArray, String.toByteArray_ofList, toList_eq, List.utf8Encode,
    List.toList_data_toByteArray, List.flatMap_map]
  induction bytes with
  | nil => rfl
  | cons b bytes ih =>
    obtain ⟨hb, hbytes⟩ := List.forall_mem_cons.mp h
    rw [List.flatMap_cons, utf8EncodeChar_ofNat hb, ih hbytes, List.singleton_append]

end Text

end RouteAccess
