import Mathlib

namespace AdbControl.Framework

/-- `char::is_whitespace`: the Unicode `White_Space` property. -/
def isWhitespace (c : Char) : Bool :=
  let n := c.toNat
  (9 ≤ n && n ≤ 13) || n == 32 || n == 0x85 || n == 0xA0 || n == 0x1680 ||
    (0x2000 ≤ n && n ≤ 0x200A) || n == 0x2028 || n == 0x2029 || n == 0x202F || n == 0x205F ||
    n == 0x3000

/-- No printed character of ASCII is white space. -/
theorem isWhitespace_ascii {c : Char} (h : 32 < c.toNat) (h' : c.toNat < 128) :
    isWhitespace c = false := by
  simp only [isWhitespace, Bool.or_eq_false_iff, Bool.and_eq_false_iff, beq_eq_false_iff_ne,
    decide_eq_false_iff_not]
  omega

/-- `char::is_ascii_whitespace`: space, tab, line feed, form feed, carriage return. -/
def isAsciiWhitespace (c : Char) : Bool :=
  c.toNat == 32 || c.toNat == 9 || c.toNat == 10 || c.toNat == 12 || c.toNat == 13

def isAsciiDigit (c : Char) : Bool := 48 ≤ c.toNat && c.toNat ≤ 57

def isAsciiAlphanumeric (c : Char) : Bool :=
  isAsciiDigit c || (65 ≤ c.toNat && c.toNat ≤ 90) || (97 ≤ c.toNat && c.toNat ≤ 122)

def isAsciiHexdigit (c : Char) : Bool :=
  isAsciiDigit c || (65 ≤ c.toNat && c.toNat ≤ 70) || (97 ≤ c.toNat && c.toNat ≤ 102)

/-- `str::trim`. -/
def trim (s : List Char) : List Char := (s.dropWhile isWhitespace).rdropWhile isWhitespace

/-- `value.trim().is_empty()`. -/
def isBlank (s : String) : Bool := (trim s.toList).isEmpty

theorem isBlank_iff (s : String) :
    isBlank s = true ↔ ∀ c ∈ s.toList, isWhitespace c = true := by
  have tail (l : List Char) (h : (l.dropWhile isWhitespace).rdropWhile isWhitespace = []) :
      l.dropWhile isWhitespace = [] := by
    cases hd : l.dropWhile isWhitespace with
    | nil => rfl
    | cons c cs =>
      have hall := List.rdropWhile_eq_nil_iff.mp (hd ▸ h) c (by simp)
      have hhead := List.dropWhile_get_zero_not isWhitespace l (by simp [hd])
      simp [hd, hall] at hhead
  simp only [isBlank, trim, List.isEmpty_iff]
  constructor
  · intro h
    exact List.dropWhile_eq_nil_iff.mp (tail _ h)
  · intro h
    rw [List.dropWhile_eq_nil_iff.mpr h]
    rfl

/-- The bytes of a text, and the text of bytes that are one. -/
def utf8Bytes (s : String) : List UInt8 := s.toByteArray.data.toList

def fromUtf8 (bytes : List UInt8) : Option String := String.fromUTF8? ⟨bytes.toArray⟩

theorem fromUtf8_utf8Bytes (s : String) : fromUtf8 (utf8Bytes s) = some s := by
  have hbytes : (⟨(utf8Bytes s).toArray⟩ : ByteArray) = s.toByteArray := by simp [utf8Bytes]
  rw [fromUtf8, hbytes, String.fromUTF8?, dif_pos s.isValidUTF8]
  rfl

theorem utf8Bytes_ofList (l : List Char) :
    utf8Bytes (String.ofList l) = l.flatMap String.utf8EncodeChar := by
  simp [utf8Bytes, List.utf8Encode]

theorem utf8Bytes_ascii {l : List Char} (h : ∀ c ∈ l, c.toNat < 128) :
    utf8Bytes (String.ofList l) = l.map (fun c => c.val.toUInt8) := by
  have one (c : Char) (hc : c ∈ l) : String.utf8EncodeChar c = [c.val.toUInt8] := by
    have hlt := h c hc
    rw [String.utf8EncodeChar_eq_singleton]
    rw [Char.utf8Size, if_pos]
    show c.toNat ≤ 0x7F
    omega
  rw [utf8Bytes_ofList, List.flatMap_congr one, List.map_eq_flatMap]

theorem utf8ByteSize_ascii {l : List Char} (h : ∀ c ∈ l, c.toNat < 128) :
    (String.ofList l).utf8ByteSize = l.length := by
  have size : (String.ofList l).utf8ByteSize = (utf8Bytes (String.ofList l)).length := by
    simp [utf8Bytes, String.utf8ByteSize]
  rw [size, utf8Bytes_ascii h, List.length_map]

section Digits

theorem isAsciiDigit_repr {n : Nat} {c : Char} (h : c ∈ n.repr.toList) : isAsciiDigit c = true := by
  rw [Nat.toList_repr] at h
  have hdigit := Nat.isDigit_of_mem_toDigits (by omega) (by omega) h
  simpa [isAsciiDigit, Char.isDigit, UInt32.le_iff_toNat_le] using hdigit

theorem toList_repr_ne_nil (n : Nat) : n.repr.toList ≠ [] := by
  rw [Nat.toList_repr]
  exact Nat.toDigits_ne_nil

/-- The value of the digits of a number. -/
theorem foldl_repr (n : Nat) :
    n.repr.toList.foldl (fun n c => 10 * n + (c.toNat - '0'.toNat)) 0 = n := by
  rw [Nat.toList_repr]
  exact Nat.ofDigitChars_ten_toDigits

end Digits

/-- `str::starts_with`. -/
def startsWith (s p : String) : Bool := p.toList.isPrefixOf s.toList

/-- `str::split_whitespace`. -/
def splitWhitespace (s : List Char) : List (List Char) :=
  (s.splitOnP isWhitespace).filter (fun field => !field.isEmpty)

/-- `str::lines`: a line ends at a line feed, with a carriage return before it dropped; a last
line that nothing ends is kept as it is unless it is empty. -/
def lines (s : List Char) : List (List Char) :=
  let pieces := s.splitOn '\n'
  pieces.dropLast.map (fun line => (line.dropSuffix? ['\r']).getD line) ++
    (pieces.getLast?.toList.filter (fun line => !line.isEmpty))

/-- `str::rfind`: where the last occurrence of the pattern begins. -/
def rfind (pat : List Char) : List Char → Option Nat
  | [] => if pat.isEmpty then some 0 else none
  | c :: cs =>
    match rfind pat cs with
    | some i => some (i + 1)
    | none => if pat.isPrefixOf (c :: cs) then some 0 else none

end AdbControl.Framework
