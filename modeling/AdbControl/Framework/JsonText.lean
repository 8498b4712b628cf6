import AdbControl.Framework.JsonAlike

namespace AdbControl.Framework

mutual

/-- The text of `serde_json::to_string` -/
def Value.compact : Value → List Char
  | .null => "null".toList
  | .bool b => (if b then "true" else "false").toList
  | .number n => n.text
  | .string s => Value.quoted s
  | .array [] => ['[', ']']
  | .array (item :: items) => '[' :: (item.compact ++ compactItems items)
  | .object [] => ['\x7b', '\x7d']
  | .object ((key, value) :: members) =>
    '\x7b' :: (Value.quoted key ++ ':' :: (value.compact ++ compactMembers members))

/-- The items after the first one, with the end of the array -/
def compactItems : List Value → List Char
  | [] => [']']
  | item :: items => ',' :: (item.compact ++ compactItems items)

def compactMembers : List (String × Value) → List Char
  | [] => ['\x7d']
  | (key, value) :: members =>
    ',' :: (Value.quoted key ++ ':' :: (value.compact ++ compactMembers members))

end

section Reader

/-- The rest of a text behind this front -/
def expect (front text : List Char) : Option (List Char) :=
  if front <+: text then some (text.drop front.length) else none

@[simp] theorem expect_append (front rest : List Char) : expect front (front ++ rest) = some rest := by
  rw [expect, if_pos (List.prefix_append front rest), List.drop_left]

def hexValue (c : Char) : Nat :=
  if c.isDigit then c.toNat - '0'.toNat else c.toNat - 'a'.toNat + 10

/-- The character that stands behind a backslash, and the text after it -/
def readEscape : List Char → Option (Char × List Char)
  | 'u' :: a :: b :: c :: d :: rest =>
    some (Char.ofNat (((hexValue a * 16 + hexValue b) * 16 + hexValue c) * 16 + hexValue d), rest)
  | 'b' :: rest => some (Char.ofNat 8, rest)
  | 't' :: rest => some (Char.ofNat 9, rest)
  | 'n' :: rest => some (Char.ofNat 10, rest)
  | 'f' :: rest => some (Char.ofNat 12, rest)
  | 'r' :: rest => some (Char.ofNat 13, rest)
  | c :: rest => some (c, rest)
  | [] => none

/-- The characters of a quoted text up to the quotation mark that ends it -/
def readQuoted : Nat → List Char → Option (List Char × List Char)
  | 0, _ => none
  | _ + 1, [] => none
  | fuel + 1, c :: text =>
    if c = '"' then some ([], text)
    else do
      let (d, text) ← if c = '\\' then readEscape text else some (c, text)
      let (s, rest) ← readQuoted fuel text
      some (d :: s, rest)

def isNumeral (c : Char) : Bool :=
  c.isDigit || c = '-' || c = '+' || c = '.' || c = 'e' || c = 'E'

def isFraction (c : Char) : Bool := c = '.' || c = 'e' || c = 'E'

def numberOf (text : List Char) : Number :=
  if text.any isFraction then .float (String.ofList text)
  else if text.head? = some '-' then .negInt (-(Nat.ofDigitChars 10 (text.drop 1) 0))
  else .posInt (Nat.ofDigitChars 10 text 0)

mutual

/-- The value at the front of a text, and the text behind it -/
def readValue : Nat → List Char → Option (Value × List Char)
  | 0, _ => none
  | fuel + 1, text =>
    match text.head? with
    | some 'n' => (expect "null".toList text).map fun rest => (.null, rest)
    | some 't' => (expect "true".toList text).map fun rest => (.bool true, rest)
    | some 'f' => (expect "false".toList text).map fun rest => (.bool false, rest)
    | some '"' => (readQuoted fuel (text.drop 1)).map fun (s, rest) => (.string (String.ofList s), rest)
    | some '[' =>
      match expect [']'] (text.drop 1) with
      | some rest => some (.array [], rest)
      | none => (readItems fuel (text.drop 1)).map fun (items, rest) => (.array items, rest)
    | some '\x7b' =>
      match expect ['\x7d'] (text.drop 1) with
      | some rest => some (.object [], rest)
      | none => (readMembers fuel (text.drop 1)).map fun (members, rest) => (.object members, rest)
    | some c =>
      if isNumeral c then
        some (.number (numberOf (text.takeWhile isNumeral)), text.dropWhile isNumeral)
      else none
    | none => none

def readItems : Nat → List Char → Option (List Value × List Char)
  | 0, _ => none
  | fuel + 1, text => do
    let (item, rest) ← readValue fuel text
    match rest with
    | ',' :: rest => (readItems fuel rest).map fun (items, rest) => (item :: items, rest)
    | ']' :: rest => some ([item], rest)
    | _ => none

def readMembers : Nat → List Char → Option (List (String × Value) × List Char)
  | 0, _ => none
  | fuel + 1, text => do
    let (key, rest) ← readQuoted fuel (← expect ['"'] text)
    let (value, rest) ← readValue fuel (← expect [':'] rest)
    match rest with
    | ',' :: rest => (readMembers fuel rest).map fun (members, rest) =>
        ((String.ofList key, value) :: members, rest)
    | '\x7d' :: rest => some ([(String.ofList key, value)], rest)
    | _ => none

end

def readJson (text : List Char) : Option Value :=
  match readValue (text.length + 1) text with
  | some (value, []) => some value
  | _ => none

example : readJson "[null]".toList = some (.array [.null]) := by
  rw [readJson, readValue]
  rfl

end Reader

section Quotations

/-- What `Value.quoted` writes for a character -/
def escaped (c : Char) : List Char :=
  let hex (n : Nat) : Char := (Nat.toDigits 16 n).headD '0'
  if c = '"' then ['\\', '"']
  else if c = '\\' then ['\\', '\\']
  else if c.toNat = 8 then ['\\', 'b']
  else if c.toNat = 9 then ['\\', 't']
  else if c.toNat = 10 then ['\\', 'n']
  else if c.toNat = 12 then ['\\', 'f']
  else if c.toNat = 13 then ['\\', 'r']
  else if c.toNat < 32 then ['\\', 'u', '0', '0', hex (c.toNat / 16), hex (c.toNat % 16)]
  else [c]

theorem quoted_eq (s : String) :
    Value.quoted s = '"' :: (s.toList.flatMap escaped ++ ['"']) := rfl

/-- A character stands for itself, or its escape reads as it. -/
theorem escaped_cases (c : Char) :
    (escaped c = [c] ∧ c ≠ '"' ∧ c ≠ '\\') ∨
      ∃ text, escaped c = '\\' :: text ∧ ∀ rest, readEscape (text ++ rest) = some (c, rest) := by
  have named {n : Nat} (h : c.toNat = n) : Char.ofNat n = c := by rw [← h, Char.ofNat_toNat]
  simp only [escaped]
  split_ifs with h₁ h₂ h₃ h₄ h₅ h₆ h₇ h₈
  · exact Or.inr ⟨['"'], rfl, fun rest => by rw [h₁]; rfl⟩
  · exact Or.inr ⟨['\\'], rfl, fun rest => by rw [h₂]; rfl⟩
  · exact Or.inr ⟨['b'], rfl, fun rest => by rw [← named h₃]; rfl⟩
  · exact Or.inr ⟨['t'], rfl, fun rest => by rw [← named h₄]; rfl⟩
  · exact Or.inr ⟨['n'], rfl, fun rest => by rw [← named h₅]; rfl⟩
  · exact Or.inr ⟨['f'], rfl, fun rest => by rw [← named h₆]; rfl⟩
  · exact Or.inr ⟨['r'], rfl, fun rest => by rw [← named h₇]; rfl⟩
  · refine Or.inr ⟨_, rfl, ?_⟩
    intro rest
    have digits : ∀ n < 32, ((hexValue '0' * 16 + hexValue '0') * 16 +
        hexValue ((Nat.toDigits 16 (n / 16)).headD '0')) * 16 +
          hexValue ((Nat.toDigits 16 (n % 16)).headD '0') = n := by decide
    simp only [List.cons_append, List.nil_append, readEscape, digits c.toNat h₈, Char.ofNat_toNat]
  · exact Or.inl ⟨rfl, h₁, h₂⟩

theorem readQuoted_escaped (s rest : List Char) {fuel : Nat} (h : s.length < fuel) :
    readQuoted fuel (s.flatMap escaped ++ '"' :: rest) = some (s, rest) := by
  induction s generalizing fuel with
  | nil =>
    obtain ⟨fuel, rfl⟩ := Nat.exists_eq_succ_of_ne_zero (Nat.ne_of_gt h)
    rfl
  | cons c s ih =>
    obtain ⟨fuel, rfl⟩ := Nat.exists_eq_succ_of_ne_zero (Nat.ne_of_gt (Nat.zero_lt_of_lt h))
    have hrest := ih (Nat.lt_of_succ_lt_succ h)
    rw [List.flatMap_cons, List.append_assoc]
    rcases escaped_cases c with ⟨hplain, hquote, hslash⟩ | ⟨text, hescape, hread⟩
    · rw [hplain, List.singleton_append, readQuoted, if_neg hquote, if_neg hslash]
      simp only [Option.bind_eq_bind, Option.bind_some, hrest]
    · rw [hescape, List.cons_append, readQuoted, if_neg (by decide), if_pos rfl]
      simp only [hread, Option.bind_eq_bind, Option.bind_some, hrest]

theorem length_le_escaped (s : List Char) : s.length ≤ (s.flatMap escaped).length := by
  induction s with
  | nil => exact Nat.zero_le _
  | cons c s ih =>
    have hone : 1 ≤ (escaped c).length := by
      rcases escaped_cases c with ⟨hplain, -, -⟩ | ⟨text, hescape, -⟩
      · rw [hplain, List.length_singleton]
      · rw [hescape, List.length_cons]
        omega
    rw [List.flatMap_cons, List.length_append, List.length_cons]
    omega

theorem readQuoted_quoted (s : String) (rest : List Char) {fuel : Nat}
    (h : (Value.quoted s).length ≤ fuel + 1) :
    readQuoted fuel ((Value.quoted s).drop 1 ++ rest) = some (s.toList, rest) := by
  rw [quoted_eq, List.drop_one, List.tail_cons, List.append_assoc, List.singleton_append]
  apply readQuoted_escaped
  have hlength := length_le_escaped s.toList
  rw [quoted_eq, List.length_cons, List.length_append, List.length_singleton] at h
  omega

end Quotations

section Numbers

/-- A number that is written as what it is: a negative one with its sign, and a decimal with a point
or an exponent. -/
def Number.IsWritten : Number → Prop
  | .posInt _ => True
  | .negInt n => n < 0
  | .float text => text.toList.all isNumeral = true ∧ text.toList.any isFraction = true

theorem isDigit_text (n : Nat) : ∀ c ∈ n.repr.toList, c.isDigit = true := by
  intro c hc
  rw [Nat.repr_eq_ofList_toDigits, String.toList_ofList] at hc
  exact Nat.isDigit_of_mem_toDigits (by decide) (by decide) hc

theorem negInt_text {n : Int} (h : n < 0) : n.repr.toList = '-' :: n.natAbs.repr.toList := by
  obtain ⟨k, rfl⟩ := Int.eq_negSucc_of_lt_zero h
  simp [Int.repr, String.toList_append]

theorem isNumeral_of_isDigit {c : Char} (h : c.isDigit = true) : isNumeral c = true := by
  simp [isNumeral, h]

theorem not_isFraction_of_isDigit {c : Char} (h : c.isDigit = true) : isFraction c = false := by
  rw [isFraction]
  by_contra hfraction
  simp only [Bool.not_eq_false, Bool.or_eq_true, decide_eq_true_eq] at hfraction
  rcases hfraction with (rfl | rfl) | rfl <;> cases h

theorem isNumeral_text {n : Number} (h : n.IsWritten) : ∀ c ∈ n.text, isNumeral c = true := by
  intro c hc
  cases n with
  | posInt n => exact isNumeral_of_isDigit (isDigit_text n c hc)
  | negInt n =>
    rw [Number.text, negInt_text h, List.mem_cons] at hc
    rcases hc with rfl | hc
    · decide
    · exact isNumeral_of_isDigit (isDigit_text _ c hc)
  | float text => exact List.all_eq_true.mp h.1 c hc

theorem text_ne_nil {n : Number} (h : n.IsWritten) : n.text ≠ [] := by
  cases n with
  | posInt n =>
    rw [Number.text, Nat.repr_eq_ofList_toDigits, String.toList_ofList]
    exact Nat.toDigits_ne_nil
  | negInt n =>
    rw [Number.text, negInt_text h]
    exact List.cons_ne_nil _ _
  | float text =>
    intro hnil
    have hany : text.toList.any isFraction = true := h.2
    rw [show text.toList = [] from hnil] at hany
    cases hany

theorem numberOf_text {n : Number} (h : n.IsWritten) : numberOf n.text = n := by
  have value (n : Nat) : Nat.ofDigitChars 10 n.repr.toList 0 = n := by
    rw [Nat.repr_eq_ofList_toDigits, String.toList_ofList, Nat.ofDigitChars_ten_toDigits]
  have whole (n : Nat) : n.repr.toList.any isFraction = false := by
    rw [List.any_eq_false]
    intro c hc
    rw [not_isFraction_of_isDigit (isDigit_text n c hc)]
    exact Bool.false_ne_true
  cases n with
  | posInt n =>
    have unsigned : n.repr.toList.head? ≠ some '-' := by
      intro hhead
      have hsign := isDigit_text n '-' (List.mem_of_mem_head? hhead)
      cases hsign
    rw [Number.text, numberOf, if_neg (by rw [whole]; exact Bool.false_ne_true), if_neg unsigned, value]
  | negInt n =>
    have hneg : (n.natAbs : Int) = -n := Int.ofNat_natAbs_of_nonpos (Int.le_of_lt h)
    have signed : ¬('-' :: n.natAbs.repr.toList).any isFraction = true := by
      rw [List.any_cons, whole]
      decide
    rw [Number.text, negInt_text h, numberOf, if_neg signed,
      if_pos List.head?_cons, List.drop_one, List.tail_cons, value, hneg, neg_neg]
  | float text => rw [Number.text, numberOf, if_pos h.2, String.ofList_toList]

end Numbers

section Reading

/-- No number goes on in this text. -/
def NoNumeral (rest : List Char) : Prop := ∀ c, rest.head? = some c → isNumeral c = false

theorem NoNumeral.nil : NoNumeral [] := nofun

theorem NoNumeral.cons {c : Char} {rest : List Char} (h : isNumeral c = false) : NoNumeral (c :: rest) := by
  rintro _ ⟨⟩
  exact h

theorem readValue_number {n : Number} (h : n.IsWritten) {rest : List Char} (hrest : NoNumeral rest)
    (fuel : Nat) : readValue (fuel + 1) (n.text ++ rest) = some (.number n, rest) := by
  have hall := isNumeral_text h
  obtain ⟨c, text, htext⟩ := List.exists_cons_of_ne_nil (text_ne_nil h)
  have hc : isNumeral c = true := hall c (by rw [htext]; exact List.mem_cons_self)
  have hend : rest.takeWhile isNumeral = [] ∧ rest.dropWhile isNumeral = rest := by
    cases rest with
    | nil => exact ⟨rfl, rfl⟩
    | cons d rest =>
      have hd := hrest d rfl
      exact ⟨List.takeWhile_cons_of_neg (by simp [hd]), List.dropWhile_cons_of_neg (by simp [hd])⟩
  have htake : (n.text ++ rest).takeWhile isNumeral = n.text := by
    rw [List.takeWhile_append_of_pos hall, hend.1, List.append_nil]
  have hdrop : (n.text ++ rest).dropWhile isNumeral = rest := by
    rw [List.dropWhile_append_of_pos hall, hend.2]
  have hhead : (n.text ++ rest).head? = some c := by rw [htext]; rfl
  rw [readValue, hhead]
  split
  case h_7 d _ _ _ _ _ _ hd =>
    obtain rfl := Option.some.inj hd
    rw [if_pos hc, htake, hdrop, numberOf_text h]
  -- no value of another kind begins with a numeral
  all_goals
    next hother =>
      cases hother
      try cases hc

/-- A value begins with a character, and not with the end of an array. -/
theorem compact_head {v : Value} (h : v.Good Number.IsWritten) :
    ∃ c text, v.compact = c :: text ∧ c ≠ ']' := by
  cases v with
  | null => exact ⟨'n', _, rfl, by decide⟩
  | bool b =>
    cases b with
    | true => exact ⟨'t', _, rfl, by decide⟩
    | false => exact ⟨'f', _, rfl, by decide⟩
  | number n =>
    obtain ⟨c, text, htext⟩ := List.exists_cons_of_ne_nil (text_ne_nil h)
    refine ⟨c, text, htext, ?_⟩
    rintro rfl
    have hnumeral := isNumeral_text h ']' (by rw [htext]; exact List.mem_cons_self)
    cases hnumeral
  | string s => exact ⟨'"', _, rfl, by decide⟩
  | array items => cases items <;> exact ⟨'[', _, rfl, by decide⟩
  | object members => rcases members with _ | ⟨⟨key, value⟩, members⟩ <;> exact ⟨'\x7b', _, rfl, by decide⟩

theorem expect_other {c d : Char} (h : c ≠ d) (text : List Char) : expect [c] (d :: text) = none := by
  rw [expect, if_neg]
  rw [List.cons_prefix_cons]
  exact fun hfront => h hfront.1

/-- A quotation at the front of a text, up to the text behind it -/
theorem expect_quoted (s : String) (rest : List Char) :
    expect ['"'] (Value.quoted s ++ rest) = some ((Value.quoted s).drop 1 ++ rest) :=
  expect_append ['"'] _

theorem readValue_string (fuel : Nat) (text : List Char) : readValue (fuel + 1) ('"' :: text) =
    (readQuoted fuel text).map fun read => (.string (String.ofList read.1), read.2) := by
  rw [readValue]
  rfl

theorem readValue_array (fuel : Nat) {text : List Char} (h : expect [']'] text = none) :
    readValue (fuel + 1) ('[' :: text) = (readItems fuel text).map fun read => (.array read.1, read.2) := by
  rw [readValue]
  simp only [List.head?_cons, List.drop_one, List.tail_cons, h]

theorem readValue_object (fuel : Nat) {text : List Char} (h : expect ['\x7d'] text = none) :
    readValue (fuel + 1) ('\x7b' :: text) =
      (readMembers fuel text).map fun read => (.object read.1, read.2) := by
  rw [readValue]
  simp only [List.head?_cons, List.drop_one, List.tail_cons, h]

/-- The quotation of a key, and the colon behind it -/
theorem readMembers_key (fuel : Nat) (key : String) (text : List Char)
    (h : (Value.quoted key).length ≤ fuel + 1) :
    readMembers (fuel + 1) (Value.quoted key ++ ':' :: text) =
      (readValue fuel text).bind fun read => match read.2 with
        | ',' :: rest => (readMembers fuel rest).map fun more => ((key, read.1) :: more.1, more.2)
        | '\x7d' :: rest => some ([(key, read.1)], rest)
        | _ => none := by
  have hkey := readQuoted_quoted key (':' :: text) h
  have hcolon : expect [':'] (':' :: text) = some text := expect_append [':'] text
  rw [readMembers]
  simp only [expect_quoted, Option.bind_eq_bind, Option.bind_some, hkey, hcolon, String.ofList_toList]

mutual

/-- A text that is written without blanks is read as the value it was written for. -/
theorem readValue_compact : ∀ (v : Value), v.Good Number.IsWritten → ∀ (fuel : Nat) (rest : List Char),
    v.compact.length ≤ fuel → NoNumeral rest → readValue fuel (v.compact ++ rest) = some (v, rest)
  | v, h, 0, _, hfuel, _ => by
    obtain ⟨c, text, htext, -⟩ := compact_head h
    rw [htext] at hfuel
    cases hfuel
  | .null, _, fuel + 1, _, _, _ => by
    rw [readValue]
    rfl
  | .bool true, _, fuel + 1, _, _, _ => by
    rw [readValue]
    rfl
  | .bool false, _, fuel + 1, _, _, _ => by
    rw [readValue]
    rfl
  | .number n, h, fuel + 1, _, _, hrest => readValue_number h hrest fuel
  | .string s, _, fuel + 1, rest, hfuel, _ => by
    have hread := readQuoted_quoted s rest hfuel
    rw [Value.compact, show Value.quoted s ++ rest = '"' :: ((Value.quoted s).drop 1 ++ rest) from rfl,
      readValue_string, hread, Option.map_some, String.ofList_toList]
  | .array [], _, fuel + 1, _, _, _ => by
    rw [readValue]
    rfl
  | .array (item :: items), h, fuel + 1, rest, hfuel, _ => by
    obtain ⟨c, text, htext, hc⟩ := compact_head h.1
    have hread := readItems_compact item items h fuel rest (Nat.le_of_succ_le_succ hfuel)
    have hmore : expect [']'] (item.compact ++ compactItems items ++ rest) = none := by
      rw [htext]
      exact expect_other hc.symm _
    rw [Value.compact, List.cons_append, readValue_array fuel hmore, hread, Option.map_some]
  | .object [], _, fuel + 1, _, _, _ => by
    rw [readValue]
    rfl
  | .object ((key, value) :: members), h, fuel + 1, rest, hfuel, _ => by
    have hread := readMembers_compact key value members h.2 fuel rest (Nat.le_of_succ_le_succ hfuel)
    have hmore : expect ['\x7d'] (Value.quoted key ++ ':' :: (value.compact ++ compactMembers members) ++
        rest) = none := expect_other (by decide) _
    rw [Value.compact, List.cons_append, readValue_object fuel hmore, hread, Option.map_some]

theorem readItems_compact : ∀ (item : Value) (items : List Value),
    goodItems Number.IsWritten (item :: items) → ∀ (fuel : Nat) (rest : List Char),
      (item.compact ++ compactItems items).length ≤ fuel →
        readItems fuel (item.compact ++ compactItems items ++ rest) = some (item :: items, rest)
  | item, items, h, 0, _, hfuel => by
    obtain ⟨c, text, htext, -⟩ := compact_head h.1
    rw [htext] at hfuel
    cases hfuel
  | item, [], h, fuel + 1, rest, hfuel => by
    rw [compactItems, List.length_append, List.length_singleton] at hfuel
    have hread := readValue_compact item h.1 fuel (']' :: rest) (Nat.le_of_succ_le_succ hfuel)
      (.cons (by decide))
    rw [readItems, compactItems, List.append_assoc, List.singleton_append, hread]
    rfl
  | item, next :: items, h, fuel + 1, rest, hfuel => by
    rw [compactItems, List.length_append, List.length_cons] at hfuel
    have hread := readValue_compact item h.1 fuel (',' :: (next.compact ++ compactItems items ++ rest))
      (by omega) (.cons (by decide))
    have hmore := readItems_compact next items h.2 fuel rest (by omega)
    rw [readItems, compactItems, List.append_assoc, List.cons_append, hread]
    simp only [Option.bind_eq_bind, Option.bind_some, hmore, Option.map_some]

theorem readMembers_compact : ∀ (key : String) (value : Value) (members : List (String × Value)),
    goodMembers Number.IsWritten ((key, value) :: members) → ∀ (fuel : Nat) (rest : List Char),
      (Value.quoted key ++ ':' :: (value.compact ++ compactMembers members)).length ≤ fuel →
        readMembers fuel (Value.quoted key ++ ':' :: (value.compact ++ compactMembers members) ++ rest) =
          some ((key, value) :: members, rest)
  | key, value, members, h, 0, _, hfuel => by cases hfuel
  | key, value, [], h, fuel + 1, rest, hfuel => by
    rw [compactMembers, List.length_append, List.length_cons, List.length_append,
      List.length_singleton] at hfuel
    have hread := readValue_compact value h.1 fuel ('\x7d' :: rest) (by omega) (.cons (by decide))
    rw [compactMembers, List.append_assoc, List.cons_append, List.append_assoc, List.singleton_append,
      readMembers_key fuel key _ (by omega), hread]
    rfl
  | key, value, (name, next) :: members, h, fuel + 1, rest, hfuel => by
    rw [compactMembers, List.length_append, List.length_cons, List.length_append,
      List.length_cons] at hfuel
    have hread := readValue_compact value h.1 fuel
      (',' :: (Value.quoted name ++ ':' :: (next.compact ++ compactMembers members) ++ rest)) (by omega)
      (.cons (by decide))
    have hmore := readMembers_compact name next members h.2 fuel rest (by omega)
    rw [compactMembers, List.append_assoc, List.cons_append, List.append_assoc, List.cons_append,
      readMembers_key fuel key _ (by omega), hread, Option.bind_some]
    simp only [hmore, Option.map_some]

end

theorem readJson_compact {v : Value} (h : v.Good Number.IsWritten) : readJson v.compact = some v := by
  have hread := readValue_compact v h (v.compact.length + 1) [] (Nat.le_succ _) .nil
  rw [List.append_nil] at hread
  rw [readJson, hread]

end Reading

end AdbControl.Framework
