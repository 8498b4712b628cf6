import AdbControl.Framework.Text

namespace AdbControl.Framework

/-- The bytes are those of a text. -/
def ValidUtf8 (bytes : List UInt8) : Prop := ∃ s, utf8Bytes s = bytes

theorem validUtf8_utf8Bytes (s : String) : ValidUtf8 (utf8Bytes s) := ⟨s, rfl⟩

theorem utf8Bytes_injective : Function.Injective utf8Bytes := by
  intro s t h
  have hread := fromUtf8_utf8Bytes s
  rw [h, fromUtf8_utf8Bytes] at hread
  exact (Option.some.inj hread).symm

theorem validUtf8_iff (bytes : List UInt8) :
    ValidUtf8 bytes ↔ (⟨bytes.toArray⟩ : ByteArray).IsValidUTF8 := by
  constructor
  · rintro ⟨s, rfl⟩
    exact s.isValidUTF8
  · intro h
    exact ⟨String.ofByteArray _ h, rfl⟩

theorem ValidUtf8.append {bytes more : List UInt8} (h : ValidUtf8 bytes) (hmore : ValidUtf8 more) :
    ValidUtf8 (bytes ++ more) := by
  obtain ⟨s, rfl⟩ := h
  obtain ⟨t, rfl⟩ := hmore
  refine ⟨s ++ t, ?_⟩
  simp [utf8Bytes]

/-- The front of a text is a text exactly when the byte behind it is the first of a character. -/
theorem validUtf8_take_iff {bytes : List UInt8} {limit : Nat} (h : ValidUtf8 bytes)
    (hlimit : limit < bytes.length) :
    ValidUtf8 (bytes.take limit) ↔ bytes[limit].IsUTF8FirstByte := by
  obtain ⟨s, rfl⟩ := h
  have inside : (⟨limit⟩ : String.Pos.Raw) < s.rawEndPos := by
    rw [String.Pos.Raw.lt_iff]
    exact hlimit
  have front : (⟨((utf8Bytes s).take limit).toArray⟩ : ByteArray) = s.toByteArray.extract 0 limit := by
    ext1
    rw [ByteArray.data_extract, ← Array.toList_inj, Array.toList_extract, List.extract_eq_take_drop]
    simp [utf8Bytes]
  have position := @String.Pos.Raw.isValid_iff_isUTF8FirstByte s ⟨limit⟩
  rw [String.Pos.Raw.isValid_iff_isValidUTF8_extract_zero] at position
  rw [validUtf8_iff, front]
  constructor
  · intro hfront
    rcases position.mp ⟨String.Pos.Raw.le_of_lt inside, hfront⟩ with hend | ⟨hlt, hfirst⟩
    · rw [hend] at inside
      exact (Nat.lt_irrefl _ inside).elim
    · exact hfirst
  · intro hfirst
    exact (position.mpr (Or.inr ⟨inside, hfirst⟩)).2

/-- A text up to a character of ASCII is a text. -/
theorem ValidUtf8.takeWhile {bytes : List UInt8} (h : ValidUtf8 bytes) {stop : UInt8}
    (ascii : stop &&& 0x80 = 0) : ValidUtf8 (bytes.takeWhile fun b => b ≠ stop) := by
  have split := List.takeWhile_append_dropWhile (p := fun b => decide (b ≠ stop)) (l := bytes)
  cases htail : bytes.dropWhile (fun b => b ≠ stop) with
  | nil =>
    rw [htail, List.append_nil] at split
    rw [split]
    exact h
  | cons b tail =>
    have hb : b = stop := by
      have hhead := List.head?_dropWhile_not (fun b => decide (b ≠ stop)) bytes
      rw [htail] at hhead
      simpa using hhead
    rw [htail, hb] at split
    rw [← split] at h
    have shorter : (bytes.takeWhile fun b => b ≠ stop).length <
        ((bytes.takeWhile fun b => b ≠ stop) ++ stop :: tail).length := by simp
    have cut := (validUtf8_take_iff h shorter).mpr
    rw [List.take_left, List.getElem_append_right le_rfl] at cut
    simp only [Nat.sub_self, List.getElem_cons_zero] at cut
    exact cut (Or.inl ascii)

/-- A byte of ASCII is a character of its own. -/
theorem ascii_of_mem_utf8EncodeChar {c : Char} {b : UInt8} (h : b ∈ String.utf8EncodeChar c)
    (hb : b < 128) : String.utf8EncodeChar c = [b] := by
  have high (x mark : UInt8) (hmark : 128 ≤ mark) : 128 ≤ x ||| mark := by
    rw [UInt8.le_iff_toNat_le, UInt8.toNat_or]
    exact hmark.trans Nat.right_le_or
  have high_of_mem {bytes : List UInt8} (hc : String.utf8EncodeChar c = bytes)
      (hall : ∀ b ∈ bytes, 128 ≤ b) : False := by
    exact absurd hb (UInt8.not_lt.mpr (hall b (hc ▸ h)))
  rcases c.utf8Size_eq with hsize | hsize | hsize | hsize
  · rw [String.utf8EncodeChar_eq_singleton hsize, List.mem_singleton] at h
    rw [String.utf8EncodeChar_eq_singleton hsize, h]
  · exact (high_of_mem (String.utf8EncodeChar_eq_cons_cons hsize) (by
      simp only [List.forall_mem_cons]
      exact ⟨high _ _ (by decide), high _ _ (by decide), by simp⟩)).elim
  · exact (high_of_mem (String.utf8EncodeChar_eq_cons_cons_cons hsize) (by
      simp only [List.forall_mem_cons]
      exact ⟨high _ _ (by decide), high _ _ (by decide), high _ _ (by decide), by simp⟩)).elim
  · exact (high_of_mem (String.utf8EncodeChar_eq_cons_cons_cons_cons hsize) (by
      simp only [List.forall_mem_cons]
      exact ⟨high _ _ (by decide), high _ _ (by decide), high _ _ (by decide), high _ _ (by decide),
        by simp⟩)).elim

/-- Bytes of ASCII are a text. -/
theorem validUtf8_ascii {bytes : List UInt8} (h : ∀ b ∈ bytes, b < 128) : ValidUtf8 bytes := by
  have code (b : UInt8) : (Char.ofNat b.toNat).toNat = b.toNat := by
    have hlt := b.toNat_lt
    rw [Char.toNat_ofNat, if_pos (Or.inl (by omega))]
  refine ⟨String.ofList (bytes.map fun b => Char.ofNat b.toNat), ?_⟩
  rw [utf8Bytes_ascii, List.map_map]
  · have same (b : UInt8) : (Char.ofNat b.toNat).val.toUInt8 = b := by
      rw [← UInt8.toNat_inj, UInt32.toNat_toUInt8]
      exact (congrArg (· % 2 ^ 8) (code b)).trans (Nat.mod_eq_of_lt b.toNat_lt)
    exact (List.map_congr_left fun b _ => same b).trans (List.map_id bytes)
  · intro c hc
    obtain ⟨b, hb, rfl⟩ := List.mem_map.mp hc
    rw [code]
    exact h b hb

end AdbControl.Framework
