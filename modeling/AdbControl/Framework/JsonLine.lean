import AdbControl.Framework.Chunks
import AdbControl.Framework.JsonText
import AdbControl.Framework.Utf8

namespace AdbControl.Framework

section Texts

mutual

/-- All texts in a value, its keys among them -/
def Value.texts : Value → List String
  | .string s => [s]
  | .array items => itemTexts items
  | .object members => memberTexts members
  | _ => []

def itemTexts : List Value → List String
  | [] => []
  | item :: items => item.texts ++ itemTexts items

def memberTexts : List (String × Value) → List String
  | [] => []
  | (key, value) :: members => key :: (value.texts ++ memberTexts members)

end

/-- A character that JSON writes outside of its quotations -/
def isMark (c : Char) : Bool :=
  ['[', ']', '\x7b', '\x7d', ':', ',', 'n', 'u', 'l', 't', 'r', 'e', 'f', 'a', 's'].contains c ||
    isNumeral c

variable {P : Char → Prop}

theorem marks_all {text : List Char} (h : text.all isMark = true) (mark : ∀ c, isMark c = true → P c) :
    ∀ c ∈ text, P c := fun c hc => mark c (List.all_eq_true.mp h c hc)

mutual

/-- What holds of the marks, and of all quotations, holds of the characters of the text. -/
theorem mem_compact (mark : ∀ c, isMark c = true → P c) : ∀ v : Value, v.Good Number.IsWritten →
    (∀ t ∈ v.texts, ∀ c ∈ Value.quoted t, P c) → ∀ c ∈ v.compact, P c
  | .null, _, _ => marks_all (by rw [Value.compact]; decide) mark
  | .bool true, _, _ => marks_all (by rw [Value.compact]; decide) mark
  | .bool false, _, _ => marks_all (by rw [Value.compact]; decide) mark
  | .number n, h, _ => by
    intro c hc
    exact mark c (by rw [isMark, isNumeral_text h c hc, Bool.or_true])
  | .string s, _, ht => ht s (List.mem_singleton.mpr rfl)
  | .array [], _, _ => marks_all (by rw [Value.compact]; decide) mark
  | .array (item :: items), h, ht => by
    rw [Value.texts, itemTexts, List.forall_mem_append] at ht
    rw [Value.compact, List.forall_mem_cons, List.forall_mem_append]
    exact ⟨mark _ (by decide), mem_compact mark item h.1 ht.1, mem_compactItems mark items h.2 ht.2⟩
  | .object [], _, _ => marks_all (by rw [Value.compact]; decide) mark
  | .object ((key, value) :: members), h, ht => by
    rw [Value.texts, memberTexts, List.forall_mem_cons, List.forall_mem_append] at ht
    rw [Value.compact, List.forall_mem_cons, List.forall_mem_append, List.forall_mem_cons,
      List.forall_mem_append]
    exact ⟨mark _ (by decide), ht.1, mark _ (by decide), mem_compact mark value h.2.1 ht.2.1,
      mem_compactMembers mark members h.2.2 ht.2.2⟩

theorem mem_compactItems (mark : ∀ c, isMark c = true → P c) : ∀ items : List Value,
    goodItems Number.IsWritten items → (∀ t ∈ itemTexts items, ∀ c ∈ Value.quoted t, P c) →
      ∀ c ∈ compactItems items, P c
  | [], _, _ => marks_all (by rw [compactItems]; decide) mark
  | item :: items, h, ht => by
    rw [itemTexts, List.forall_mem_append] at ht
    rw [compactItems, List.forall_mem_cons, List.forall_mem_append]
    exact ⟨mark _ (by decide), mem_compact mark item h.1 ht.1, mem_compactItems mark items h.2 ht.2⟩

theorem mem_compactMembers (mark : ∀ c, isMark c = true → P c) : ∀ members : List (String × Value),
    goodMembers Number.IsWritten members → (∀ t ∈ memberTexts members, ∀ c ∈ Value.quoted t, P c) →
      ∀ c ∈ compactMembers members, P c
  | [], _, _ => marks_all (by rw [compactMembers]; decide) mark
  | (key, value) :: members, h, ht => by
    rw [memberTexts, List.forall_mem_cons, List.forall_mem_append] at ht
    rw [compactMembers, List.forall_mem_cons, List.forall_mem_append, List.forall_mem_cons,
      List.forall_mem_append]
    exact ⟨mark _ (by decide), ht.1, mark _ (by decide), mem_compact mark value h.1 ht.2.1,
      mem_compactMembers mark members h.2 ht.2.2⟩

end

theorem isMark_range {c : Char} (h : isMark c = true) : 32 ≤ c.toNat ∧ c.toNat < 128 := by
  have digit (h : c.isDigit = true) : 32 ≤ c.toNat ∧ c.toNat < 128 := by
    simp only [Char.isDigit, Bool.and_eq_true, decide_eq_true_eq, ge_iff_le,
      UInt32.le_iff_toNat_le] at h
    exact ⟨(show 32 ≤ 48 by decide).trans h.1, Nat.lt_of_le_of_lt h.2 (by decide)⟩
  rw [isMark, isNumeral, Bool.or_eq_true] at h
  rcases h with h | h
  · simp only [List.contains_iff_mem, List.mem_cons, List.not_mem_nil, or_false] at h
    rcases h with rfl | rfl | rfl | rfl | rfl | rfl | rfl | rfl | rfl | rfl | rfl | rfl | rfl | rfl | rfl
    all_goals decide
  · simp only [Bool.or_eq_true, decide_eq_true_eq] at h
    rcases h with ((((h | rfl) | rfl) | rfl) | rfl) | rfl
    all_goals first | exact digit h | decide

theorem hexDigit_range {n : Nat} (h : n < 16) :
    32 ≤ ((Nat.toDigits 16 n).headD '0').toNat ∧ ((Nat.toDigits 16 n).headD '0').toNat < 128 := by
  rw [Nat.toDigits_of_lt_base h]
  interval_cases n <;> decide

/-- No quotation holds a control character: they are all escaped. -/
theorem quoted_range (t : String) : ∀ c ∈ Value.quoted t, 32 ≤ c.toNat := by
  have one (d : Char) : ∀ c ∈ escaped d, 32 ≤ c.toNat := by
    simp only [escaped]
    split_ifs with h₁ h₂ h₃ h₄ h₅ h₆ h₇ h₈
    iterate 7
      · simp only [List.forall_mem_cons]
        exact ⟨by decide, by decide, by simp⟩
    · have hhigh := hexDigit_range (show d.toNat / 16 < 16 by omega)
      have hlow := hexDigit_range (Nat.mod_lt d.toNat (show 0 < 16 by decide))
      simp only [List.forall_mem_cons]
      exact ⟨by decide, by decide, by decide, by decide, hhigh.1, hlow.1, by simp⟩
    · rw [List.forall_mem_singleton]
      omega
  rw [quoted_eq, List.forall_mem_cons, List.forall_mem_append, List.forall_mem_flatMap,
    List.forall_mem_singleton]
  exact ⟨by decide, fun d _ => one d, by decide⟩

/-- The text of a value has no control character. -/
theorem compact_range {v : Value} (h : v.Good Number.IsWritten) : ∀ c ∈ v.compact, 32 ≤ c.toNat :=
  mem_compact (fun _ hc => (isMark_range hc).1) v h fun t _ => quoted_range t

theorem quoted_ascii {t : String} (h : ∀ c ∈ t.toList, c.toNat < 128) :
    ∀ c ∈ Value.quoted t, c.toNat < 128 := by
  have one (d : Char) (hd : d.toNat < 128) : ∀ c ∈ escaped d, c.toNat < 128 := by
    simp only [escaped]
    split_ifs with h₁ h₂ h₃ h₄ h₅ h₆ h₇ h₈
    iterate 7
      · simp only [List.forall_mem_cons]
        exact ⟨by decide, by decide, by simp⟩
    · have hhigh := hexDigit_range (show d.toNat / 16 < 16 by omega)
      have hlow := hexDigit_range (Nat.mod_lt d.toNat (show 0 < 16 by decide))
      simp only [List.forall_mem_cons]
      exact ⟨by decide, by decide, by decide, by decide, hhigh.2, hlow.2, by simp⟩
    · rwa [List.forall_mem_singleton]
  rw [quoted_eq, List.forall_mem_cons, List.forall_mem_append, List.forall_mem_flatMap,
    List.forall_mem_singleton]
  exact ⟨by decide, fun d hd => one d (h d hd), by decide⟩

theorem compact_ascii {v : Value} (h : v.Good Number.IsWritten)
    (ht : ∀ t ∈ v.texts, ∀ c ∈ t.toList, c.toNat < 128) : ∀ c ∈ v.compact, c.toNat < 128 :=
  mem_compact (fun _ hc => (isMark_range hc).2) v h fun t hmem => quoted_ascii (ht t hmem)

end Texts

section JsonLines

/-- A value on a line of its own -/
def jsonLine (v : Value) : List UInt8 := utf8Bytes (String.ofList v.compact) ++ [10]

def readJsonLine (line : List UInt8) : Option Value :=
  (fromUtf8 line).bind fun text => readJson text.toList

theorem newline_notMem {text : List Char} (h : ∀ c ∈ text, 32 ≤ c.toNat) :
    (10 : UInt8) ∉ utf8Bytes (String.ofList text) := by
  intro hmem
  rw [utf8Bytes_ofList, List.mem_flatMap] at hmem
  obtain ⟨c, hc, hbyte⟩ := hmem
  have hone := ascii_of_mem_utf8EncodeChar hbyte (by decide)
  have hsame : utf8Bytes (String.ofList [c]) = utf8Bytes (String.ofList ['\n']) := by
    rw [utf8Bytes_ofList, utf8Bytes_ofList, List.flatMap_singleton, List.flatMap_singleton, hone]
    rfl
  have hchar := String.ofList_injective (utf8Bytes_injective hsame)
  have hcode := h c hc
  rw [List.singleton_inj.mp hchar] at hcode
  exact absurd hcode (by decide)

theorem readJsonLine_compact {v : Value} (h : v.Good Number.IsWritten) :
    readJsonLine (utf8Bytes (String.ofList v.compact)) = some v := by
  rw [readJsonLine, fromUtf8_utf8Bytes, Option.bind_some, String.toList_ofList, readJson_compact h]

/-- Values written line by line are read line by line. -/
theorem read_jsonLines {values : List Value} (h : ∀ v ∈ values, v.Good Number.IsWritten) :
    (completeLines 10 (values.flatMap jsonLine)).map readJsonLine = values.map some := by
  induction values with
  | nil => rfl
  | cons v values ih =>
    rw [List.forall_mem_cons] at h
    rw [List.flatMap_cons, jsonLine, List.append_assoc, List.singleton_append,
      completeLines_cons (newline_notMem (compact_range h.1)), List.map_cons, readJsonLine_compact h.1,
      ih h.2, List.map_cons]

end JsonLines

end AdbControl.Framework
