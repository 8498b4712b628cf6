import AdbControl.Companion.CommandLoop
import AdbControl.Framework.Quoting

namespace AdbControl.Companion

open Framework

/-- What the arguments of a command hold: a scalar, an object or array of `org.json`, or a Kotlin map
or list. -/
inductive Arg
  | null
  | bool (value : Bool)
  | number (value : Number)
  | string (value : String)
  | jsonObject (members : List (String × Value))
  | jsonArray (items : List Value)
  | map (entries : List (String × Arg))
  | list (items : List Arg)

abbrev Args := List (String × Arg)

mutual

def fromJsonValue : Value → Arg
  | .null => .null
  | .bool b => .bool b
  | .number n => .number n
  | .string s => .string s
  | .object members => .map (jsonObjectToMap members)
  | .array items => .list (fromJsonItems items)

def fromJsonItems : List Value → List Arg
  | [] => []
  | item :: items => fromJsonValue item :: fromJsonItems items

def jsonObjectToMap : List (String × Value) → Args
  | [] => []
  | (key, value) :: members => (key, fromJsonValue value) :: jsonObjectToMap members

end

/-- What `parseArgs` makes of a member: `JSONObject.get`, with null for `JSONObject.NULL`. -/
def parseArg : Value → Arg
  | .null => .null
  | .bool b => .bool b
  | .number n => .number n
  | .string s => .string s
  | .object members => .jsonObject members
  | .array items => .jsonArray items

def parseArgs (source : List (String × Value)) : Args :=
  source.map fun member => (member.1, parseArg member.2)

def isNumberChar (c : Char) : Bool := isAsciiAlphanumeric c || c = '+' || c = '-' || c = '.'

/-- What Java says of a number: its text, the one that `JSONObject.numberToString` writes, and its
`toInt()`. -/
structure NumberTexts where
  toString : Number → List Char
  numberToString : Number → List Char
  toInt : Number → Int
  toString_plain : ∀ n, ∀ c ∈ toString n, isNumberChar c = true
  numberToString_plain : ∀ n, ∀ c ∈ numberToString n, isNumberChar c = true
  numberToString_ne_nil : ∀ n, numberToString n ≠ []

/-- `JSONStringer.string`, a character at a time -/
def escapeJson (c : Char) : List Char :=
  let hex (n : Nat) : Char := (Nat.toDigits 16 n).headD '0'
  if c = '"' ∨ c = '\\' ∨ c = '/' then ['\\', c]
  else if c.toNat = 9 then ['\\', 't']
  else if c.toNat = 8 then ['\\', 'b']
  else if c.toNat = 10 then ['\\', 'n']
  else if c.toNat = 13 then ['\\', 'r']
  else if c.toNat = 12 then ['\\', 'f']
  else if c.toNat ≤ 0x1F then ['\\', 'u', '0', '0', hex (c.toNat / 16), hex (c.toNat % 16)]
  else [c]

def jsonStringer : Quoting where
  escape := escapeJson
  escape_ne_nil := by
    intro c
    unfold escapeJson
    split_ifs <;> simp
  escape_mark := by
    rintro c (rfl | rfl) d hd
    · have hd' : d ∈ ['\\', '"'] := hd
      simp only [List.mem_cons, List.not_mem_nil, or_false] at hd'
      exact hd'.symm
    · have hd' : d ∈ ['\\', '\\'] := hd
      simp only [List.mem_cons, List.not_mem_nil, or_false, or_self] at hd'
      exact Or.inr hd'

section

variable (texts : NumberTexts)

mutual

/-- `toString` of what `org.json` holds -/
def jsonText : Value → List Char
  | .null => "null".toList
  | .bool b => (if b then "true" else "false").toList
  | .number n => texts.numberToString n
  | .string s => jsonStringer.quote s.toList
  | .array items => '[' :: [','].intercalate (jsonTexts items) ++ [']']
  | .object members => '\x7b' :: [','].intercalate (jsonMemberTexts members) ++ ['\x7d']

def jsonTexts : List Value → List (List Char)
  | [] => []
  | item :: items => jsonText item :: jsonTexts items

def jsonMemberTexts : List (String × Value) → List (List Char)
  | [] => []
  | (key, value) :: members =>
    (jsonStringer.quote key.toList ++ ':' :: jsonText value) :: jsonMemberTexts members

end

mutual

/-- `toString` of an argument -/
def Arg.text : Arg → List Char
  | .null => "null".toList
  | .bool b => (if b then "true" else "false").toList
  | .number n => texts.toString n
  | .string s => s.toList
  | .jsonObject members => jsonText texts (.object members)
  | .jsonArray items => jsonText texts (.array items)
  | .map entries => '\x7b' :: [',', ' '].intercalate (entryTexts entries) ++ ['\x7d']
  | .list items => '[' :: [',', ' '].intercalate (argTexts items) ++ [']']

def argTexts : List Arg → List (List Char)
  | [] => []
  | item :: items => item.text :: argTexts items

def entryTexts : Args → List (List Char)
  | [] => []
  | (key, value) :: entries => (key.toList ++ '=' :: value.text) :: entryTexts entries

end

/-- `?.toString()` -/
def Arg.toString? : Arg → Option String
  | .null => none
  | arg => some (String.ofList (arg.text texts))

namespace Args

def stringArg (args : Args) (name : String) : Option String :=
  ((args.lookup name).bind (Arg.toString? texts)).filter isNotBlank

def intArg (args : Args) (name : String) : Option Int :=
  (args.lookup name).bind fun value =>
    match value with
    | .number n => some (texts.toInt n)
    | .string s => toIntOrNull s
    | _ => none

/-- `equals("true", ignoreCase = true)`; no other letters have these as their upper or lower case. -/
def equalsTrue (s : String) : Bool := s.toList.map Char.toLower == "true".toList

def booleanArg (args : Args) (name : String) : Bool :=
  match args.lookup name with
  | some (.bool b) => b
  | some (.string s) => equalsTrue s
  | some (.number n) => texts.toInt n ≠ 0
  | _ => false

/-- The elements are not looked at. -/
def mapListArg (args : Args) (name : String) : List Arg :=
  match args.lookup name with
  | some (.list items) => items
  | _ => []

/-- `JSONArray.optString` of an item, where `JSONObject.NULL` has a text as well -/
def optString (item : Value) : String := String.ofList ((parseArg item).text texts)

def stringListArg (args : Args) (name : String) : List String :=
  match args.lookup name with
  | some (.jsonArray items) => (items.map (optString texts)).filter isNotBlank
  | some (.list items) => items.filterMap fun item => (item.toString? texts).filter isNotBlank
  | _ => []

end Args

mutual

/-- A value whose JSON is also the text of its Kotlin form -/
def SameText : Value → Prop
  | .null => True
  | .bool _ => True
  | .number n => texts.toString n = texts.numberToString n
  | .string _ => False
  | .array items => SameTexts items
  | .object members => members = []

/-- At most one item, which has the same text in both forms -/
def SameTexts : List Value → Prop
  | [] => True
  | item :: items => items = [] ∧ SameText item

end

section Texts

variable {texts}

theorem jsonText_head (texts : NumberTexts) (v : Value) :
    ∃ c rest, jsonText texts v = c :: rest ∧ c ≠ ' ' := by
  cases v with
  | null => exact ⟨'n', _, rfl, by decide⟩
  | bool b =>
    cases b with
    | true => exact ⟨'t', _, rfl, by decide⟩
    | false => exact ⟨'f', _, rfl, by decide⟩
  | number n =>
    obtain ⟨c, rest, hrest⟩ := List.exists_cons_of_ne_nil (texts.numberToString_ne_nil n)
    refine ⟨c, rest, hrest, ?_⟩
    rintro rfl
    have hplain := texts.numberToString_plain n ' ' (by rw [hrest]; exact List.mem_cons_self)
    revert hplain
    decide
  | string s => exact ⟨'"', _, rfl, by decide⟩
  | array items => exact ⟨'[', _, rfl, by decide⟩
  | object members => exact ⟨'\x7b', _, rfl, by decide⟩

/-- The characters that stand behind a value -/
def IsDelimiter (c : Char) : Prop := c = ',' ∨ c = ']' ∨ c = '\x7d'

theorem IsDelimiter.not_mark {c : Char} (h : IsDelimiter c) : ¬IsMark c := by
  rcases h with rfl | rfl | rfl <;> unfold IsMark <;> decide

theorem IsDelimiter.not_numberChar {c : Char} (h : IsDelimiter c) : ¬isNumberChar c = true := by
  rcases h with rfl | rfl | rfl <;> decide

mutual

/-- Where the texts of both forms read the same up to a delimiter, the value is one with the same text
in both. -/
theorem same_of_text_eq {x y : List Char} {a b : Char} (ha : IsDelimiter a) (hb : IsDelimiter b) :
    ∀ v, (fromJsonValue v).text texts ++ a :: x = jsonText texts v ++ b :: y →
      SameText texts v ∧ a :: x = b :: y
  | .null, h => ⟨trivial, List.append_cancel_left h⟩
  | .bool _, h => ⟨trivial, List.append_cancel_left h⟩
  | .number n, h => plain_append_inj (texts.toString_plain n) (texts.numberToString_plain n)
      ha.not_numberChar hb.not_numberChar h
  | .string s, h => (jsonStringer.quote_apart ha.not_mark h).elim
  | .array items, h => by
    simp only [fromJsonValue, Arg.text, jsonText, List.append_assoc, List.cons_append,
      List.nil_append, List.cons.injEq, true_and] at h
    exact same_of_texts_eq items h
  | .object [], h => ⟨rfl, List.append_cancel_left h⟩
  | .object ((key, value) :: members), h => by
    -- the key is quoted in JSON only
    obtain ⟨more, hmore⟩ := intercalate_cons [',', ' '] (key.toList ++ '=' :: (fromJsonValue value).text
      texts) (entryTexts texts (jsonObjectToMap members))
    obtain ⟨more', hmore'⟩ := intercalate_cons [','] (jsonStringer.quote key.toList ++
      ':' :: jsonText texts value) (jsonMemberTexts texts members)
    simp only [fromJsonValue, jsonObjectToMap, Arg.text, jsonText, entryTexts, jsonMemberTexts, hmore,
      hmore', List.append_assoc, List.cons_append, List.cons.injEq, true_and] at h
    exact (jsonStringer.quote_apart (by unfold IsMark; decide) h).elim

theorem same_of_texts_eq {x y : List Char} : ∀ items,
    [',', ' '].intercalate (argTexts texts (fromJsonItems items)) ++ ']' :: x =
      [','].intercalate (jsonTexts texts items) ++ ']' :: y → SameTexts texts items ∧ x = y
  | [], h => ⟨trivial, (List.cons.inj h).2⟩
  | [item], h => by
    simp only [fromJsonItems, argTexts, jsonTexts, List.intercalate_singleton] at h
    obtain ⟨hsame, hrest⟩ := same_of_text_eq (Or.inr (Or.inl rfl)) (Or.inr (Or.inl rfl)) item h
    exact ⟨⟨rfl, hsame⟩, (List.cons.inj hrest).2⟩
  | item :: next :: items, h => by
    -- a blank follows the comma in the list only
    obtain ⟨c, rest, hhead, hblank⟩ := jsonText_head texts next
    obtain ⟨more, hmore⟩ := intercalate_cons [','] (c :: rest) (jsonTexts texts items)
    simp only [fromJsonItems, argTexts, jsonTexts, List.intercalate_cons_cons, hhead, hmore,
      List.append_assoc, List.cons_append, List.nil_append] at h
    obtain ⟨-, hrest⟩ := same_of_text_eq (Or.inl rfl) (Or.inl rfl) item h
    exact (hblank (List.cons.inj (List.cons.inj hrest).2).1.symm).elim

end

mutual

theorem text_of_same : ∀ v, SameText texts v → (fromJsonValue v).text texts = jsonText texts v
  | .null, _ => rfl
  | .bool _, _ => rfl
  | .number _, h => h
  | .string _, h => h.elim
  | .array items, h => by
    simp only [fromJsonValue, Arg.text, jsonText, texts_of_same items h]
  | .object members, h => by
    obtain rfl : members = [] := h
    rfl

theorem texts_of_same : ∀ items, SameTexts texts items →
    [',', ' '].intercalate (argTexts texts (fromJsonItems items)) =
      [','].intercalate (jsonTexts texts items)
  | [], _ => rfl
  | item :: items, h => by
    obtain ⟨rfl, hitem⟩ := h
    simp only [fromJsonItems, argTexts, jsonTexts, List.intercalate_singleton,
      text_of_same item hitem]

end

theorem text_eq_iff (v : Value) :
    (fromJsonValue v).text texts = jsonText texts v ↔ SameText texts v := by
  constructor
  · intro h
    have delimited : (fromJsonValue v).text texts ++ ']' :: [] = jsonText texts v ++ ']' :: [] := by
      rw [h]
    exact (same_of_text_eq (Or.inr (Or.inl rfl)) (Or.inr (Or.inl rfl)) v delimited).1
  · exact text_of_same v

end Texts

/-- The accessors of the handlers -/
inductive Accessor
  | stringArg
  | intArg
  | booleanArg
  | mapListArg
  | stringListArg

inductive Reading
  | string (value : Option String)
  | int (value : Option Int)
  | boolean (value : Bool)
  | maps (value : List Arg)
  | strings (value : List String)

def Args.read (args : Args) (name : String) : Accessor → Reading
  | .stringArg => .string (args.stringArg texts name)
  | .intArg => .int (args.intArg texts name)
  | .booleanArg => .boolean (args.booleanArg texts name)
  | .mapListArg => .maps (args.mapListArg name)
  | .stringListArg => .strings (args.stringListArg texts name)

def isContainer : Value → Bool
  | .array _ => true
  | .object _ => true
  | _ => false

/-- The values that an accessor reads alike in both forms -/
def Agrees : Accessor → Value → Prop
  | .stringArg, v => isContainer v = true → SameText texts v
  | .mapListArg, .array items => items = []
  | .stringListArg, .array items =>
    ∀ item ∈ items, item ≠ .null ∧ (isContainer item = true → SameText texts item)
  | _, _ => True

section Agreement

variable {texts}

theorem lookup_jsonObjectToMap (members : List (String × Value)) (name : String) :
    (jsonObjectToMap members).lookup name = (members.lookup name).map fromJsonValue := by
  induction members with
  | nil => rfl
  | cons member members ih =>
    rw [jsonObjectToMap, List.lookup_cons, List.lookup_cons, ih]
    split <;> rfl

theorem lookup_parseArgs (members : List (String × Value)) (name : String) :
    (parseArgs members).lookup name = (members.lookup name).map parseArg := by
  induction members with
  | nil => rfl
  | cons member members ih =>
    rw [parseArgs, List.map_cons, List.lookup_cons, List.lookup_cons]
    split
    · rfl
    · exact ih

theorem parseArg_scalar {v : Value} (h : isContainer v = false) : parseArg v = fromJsonValue v := by
  cases v <;> first | rfl | cases h

theorem parseArg_container {v : Value} (h : isContainer v = true) :
    (parseArg v).toString? texts = some (String.ofList (jsonText texts v)) := by
  cases v <;> first | rfl | cases h

theorem toString?_fromJsonValue {v : Value} (h : v ≠ .null) :
    (fromJsonValue v).toString? texts = some (String.ofList ((fromJsonValue v).text texts)) := by
  cases v <;> first | rfl | exact (h rfl).elim

theorem ne_null_of_container {v : Value} (h : isContainer v = true) : v ≠ .null := by
  rintro rfl
  cases h

/-- The text of a container is not blank. -/
theorem isNotBlank_container (texts : NumberTexts) {v : Value} (h : isContainer v = true) :
    isNotBlank (String.ofList (jsonText texts v)) = true ∧
      isNotBlank (String.ofList ((fromJsonValue v).text texts)) = true := by
  have front (c : Char) (rest : List Char) (hc : isKotlinWhitespace c = false) :
      isNotBlank (String.ofList (c :: rest)) = true := by
    simp [isNotBlank, hc]
  cases v with
  | array items => exact ⟨front '[' _ (by decide), front '[' _ (by decide)⟩
  | object members => exact ⟨front '\x7b' _ (by decide), front '\x7b' _ (by decide)⟩
  | _ => cases h

theorem stringArg_agrees {members : List (String × Value)} {name : String} {v : Value}
    (h : members.lookup name = some v) :
    (jsonObjectToMap members : Args).stringArg texts name = (parseArgs members).stringArg texts name ↔
      Agrees texts .stringArg v := by
  rw [Args.stringArg, Args.stringArg, lookup_jsonObjectToMap, lookup_parseArgs, h]
  cases hcontainer : isContainer v with
  | false =>
    rw [Option.map_some, Option.map_some, parseArg_scalar hcontainer]
    exact iff_of_true rfl (fun hc => absurd (hcontainer.symm.trans hc) Bool.false_ne_true)
  | true =>
    obtain ⟨hjson, htext⟩ := isNotBlank_container texts hcontainer
    simp only [Option.map_some, Option.bind_some, parseArg_container hcontainer,
      toString?_fromJsonValue (ne_null_of_container hcontainer), Option.filter_some, hjson, htext, if_true,
      Option.some.injEq, String.ofList_inj, text_eq_iff, Agrees, hcontainer, true_imp_iff]

/-- The strings that the list of an array gives -/
def listStrings (texts : NumberTexts) (items : List Value) : List String :=
  items.filterMap fun item => ((fromJsonValue item).toString? texts).filter isNotBlank

/-- The strings that the array itself gives -/
def arrayStrings (texts : NumberTexts) (items : List Value) : List String :=
  (items.map (Args.optString texts)).filter isNotBlank

theorem stringListArg_list {args : Args} {name : String} (items : List Value)
    (h : args.lookup name = some (.list (fromJsonItems items))) :
    args.stringListArg texts name = listStrings texts items := by
  have map : ∀ items, fromJsonItems items = items.map fromJsonValue := by
    intro items
    induction items with
    | nil => rfl
    | cons item items ih => rw [fromJsonItems, List.map_cons, ih]
  simp only [Args.stringListArg, h, map, List.filterMap_map]
  rfl

/-- What an item gives: null only gives a string to the array, a scalar gives both the same one, and
a container gives each its own. -/
theorem item_cases (texts : NumberTexts) (item : Value) :
    (item = .null ∧ ∀ items, listStrings texts (item :: items) = listStrings texts items ∧
      arrayStrings texts (item :: items) = "null" :: arrayStrings texts items) ∨
    (item ≠ .null ∧ isContainer item = false ∧ ∃ front : List String, ∀ items,
      listStrings texts (item :: items) = front ++ listStrings texts items ∧
        arrayStrings texts (item :: items) = front ++ arrayStrings texts items) ∨
    (item ≠ .null ∧ isContainer item = true ∧ ∀ items,
      listStrings texts (item :: items) =
        String.ofList ((fromJsonValue item).text texts) :: listStrings texts items ∧
      arrayStrings texts (item :: items) =
        String.ofList (jsonText texts item) :: arrayStrings texts items) := by
  have list (items : List Value) : listStrings texts (item :: items) =
      listStrings texts [item] ++ listStrings texts items := by
    rw [listStrings, listStrings, listStrings, ← List.filterMap_append, List.singleton_append]
  have array (items : List Value) : arrayStrings texts (item :: items) =
      arrayStrings texts [item] ++ arrayStrings texts items := by
    rw [arrayStrings, arrayStrings, arrayStrings, ← List.filter_append, ← List.map_append,
      List.singleton_append]
  cases hcontainer : isContainer item with
  | true =>
    have hne := ne_null_of_container hcontainer
    obtain ⟨hjson, htext⟩ := isNotBlank_container texts hcontainer
    refine Or.inr (Or.inr ⟨hne, rfl, ?_⟩)
    intro items
    have hlist : listStrings texts [item] = [String.ofList ((fromJsonValue item).text texts)] := by
      simp only [listStrings, List.filterMap_cons, toString?_fromJsonValue hne, Option.filter_some,
        htext, if_true, List.filterMap_nil]
    have htexts : Args.optString texts item = String.ofList (jsonText texts item) := by
      cases item <;> first | rfl | cases hcontainer
    have harray : arrayStrings texts [item] = [String.ofList (jsonText texts item)] := by
      simp [arrayStrings, htexts, hjson]
    rw [list, array, hlist, harray]
    exact ⟨rfl, rfl⟩
  | false =>
    by_cases hne : item = .null
    · subst hne
      refine Or.inl ⟨rfl, ?_⟩
      intro items
      have hblank : isNotBlank "null" = true := by decide
      rw [list, array]
      exact ⟨rfl, by simp [arrayStrings, Args.optString, parseArg, Arg.text, hblank]⟩
    · refine Or.inr (Or.inl ⟨hne, rfl, listStrings texts [item], ?_⟩)
      intro items
      have same : arrayStrings texts [item] = listStrings texts [item] := by
        have htext : Args.optString texts item = String.ofList ((fromJsonValue item).text texts) := by
          rw [Args.optString, parseArg_scalar hcontainer]
        simp only [arrayStrings, listStrings, List.map_cons, List.map_nil, htext, List.filterMap_cons,
          toString?_fromJsonValue hne, Option.filter_some, List.filter_cons]
        split_ifs <;> rfl
      rw [list, array, same]
      exact ⟨rfl, rfl⟩

/-- The array gives no fewer strings. -/
theorem length_listStrings_le (texts : NumberTexts) (items : List Value) :
    (listStrings texts items).length ≤ (arrayStrings texts items).length := by
  induction items with
  | nil => exact le_rfl
  | cons item items ih =>
    rcases item_cases texts item with ⟨-, hnull⟩ | ⟨-, -, front, hscalar⟩ | ⟨-, -, hcontainer⟩
    · rw [(hnull items).1, (hnull items).2, List.length_cons]
      omega
    · rw [(hscalar items).1, (hscalar items).2, List.length_append, List.length_append]
      omega
    · rw [(hcontainer items).1, (hcontainer items).2, List.length_cons, List.length_cons]
      omega

theorem listStrings_eq_iff (items : List Value) :
    listStrings texts items = arrayStrings texts items ↔ Agrees texts .stringListArg (.array items) := by
  have cons (item : Value) (items : List Value) : Agrees texts .stringListArg (.array (item :: items)) ↔
      (item ≠ .null ∧ (isContainer item = true → SameText texts item)) ∧
        Agrees texts .stringListArg (.array items) := List.forall_mem_cons
  induction items with
  | nil => exact iff_of_true rfl (fun _ => nofun)
  | cons item items ih =>
    rw [cons]
    rcases item_cases texts item with ⟨rfl, hnull⟩ | ⟨hne, hscalar, front, hfront⟩ |
      ⟨hne, hcontainer, hboth⟩
    · rw [(hnull items).1, (hnull items).2]
      refine iff_of_false ?_ fun h => h.1.1 rfl
      intro h
      have hlength := length_listStrings_le texts items
      rw [h, List.length_cons] at hlength
      omega
    · have alike : item ≠ .null ∧ (isContainer item = true → SameText texts item) :=
        ⟨hne, fun hc => absurd (hscalar.symm.trans hc) Bool.false_ne_true⟩
      rw [(hfront items).1, (hfront items).2, List.append_right_inj, and_iff_right alike]
      exact ih
    · rw [(hboth items).1, (hboth items).2, List.cons.injEq, String.ofList_inj, text_eq_iff]
      refine and_congr ?_ ih
      rw [and_iff_right hne, forall_prop_of_true hcontainer]

/-- The handlers read an argument alike from both transports exactly where the accessor does not see
the difference of its forms. -/
theorem read_eq_iff (texts : NumberTexts) (members : List (String × Value)) (name : String)
    (accessor : Accessor) :
    (jsonObjectToMap members : Args).read texts name accessor =
        (parseArgs members).read texts name accessor ↔
      ∀ v, members.lookup name = some v → Agrees texts accessor v := by
  cases hlookup : members.lookup name with
  | none =>
    have absent : (jsonObjectToMap members : Args).lookup name = none ∧
        (parseArgs members).lookup name = none := by
      rw [lookup_jsonObjectToMap, lookup_parseArgs, hlookup]
      exact ⟨rfl, rfl⟩
    refine iff_of_true ?_ (fun _ => nofun)
    cases accessor <;> simp [Args.read, Args.stringArg, Args.intArg, Args.booleanArg, Args.mapListArg,
      Args.stringListArg, absent]
  | some v =>
    have hmap : (jsonObjectToMap members : Args).lookup name = some (fromJsonValue v) := by
      rw [lookup_jsonObjectToMap, hlookup, Option.map_some]
    have hparse : (parseArgs members).lookup name = some (parseArg v) := by
      rw [lookup_parseArgs, hlookup, Option.map_some]
    simp only [Option.some.injEq, forall_eq']
    cases accessor with
    | stringArg =>
      rw [Args.read, Args.read, Reading.string.injEq]
      exact stringArg_agrees hlookup
    | intArg =>
      refine iff_of_true ?_ trivial
      rw [Args.read, Args.read, Args.intArg, Args.intArg, hmap, hparse]
      cases v <;> rfl
    | booleanArg =>
      refine iff_of_true ?_ trivial
      rw [Args.read, Args.read, Args.booleanArg, Args.booleanArg, hmap, hparse]
      cases v <;> rfl
    | mapListArg =>
      rw [Args.read, Args.read, Reading.maps.injEq, Args.mapListArg, Args.mapListArg, hmap, hparse]
      cases v with
      | array items => cases items <;> simp [fromJsonValue, parseArg, fromJsonItems, Agrees]
      | _ => exact iff_of_true rfl trivial
    | stringListArg =>
      rw [Args.read, Args.read, Reading.strings.injEq]
      cases v with
      | array items =>
        rw [stringListArg_list items hmap, Args.stringListArg, hparse]
        exact listStrings_eq_iff items
      | _ =>
        rw [Args.stringListArg, Args.stringListArg, hmap, hparse]
        exact iff_of_true rfl trivial

/-- The numbers of Java, where their texts are those of JSON -/
def plainNumbers : NumberTexts where
  toString n := n.text.filter isNumberChar
  numberToString n := if n.text.filter isNumberChar = [] then ['0'] else n.text.filter isNumberChar
  toInt n := match n with
    | .posInt n => (n : Int).bmod (2^32)
    | .negInt n => n.bmod (2^32)
    | .float _ => 0
  toString_plain _ _ hc := (List.mem_filter.mp hc).2
  numberToString_plain n c hc := by
    split_ifs at hc
    · rw [List.mem_singleton.mp hc]
      decide
    · exact (List.mem_filter.mp hc).2
  numberToString_ne_nil n := by
    split_ifs with hnil
    · exact List.cons_ne_nil _ _
    · exact hnil

/-- The intents of `intent.chainLaunch` are lost in a broadcast. -/
theorem chainLaunch_intents_lost :
    let intents : List (String × Value) := [("intents", .array [.object
      [("packageName", .string "com.example"), ("className", .string "com.example.Main")]])]
    (jsonObjectToMap intents : Args).mapListArg "intents" = [.map
      [("packageName", .string "com.example"), ("className", .string "com.example.Main")]] ∧
    (parseArgs intents).mapListArg "intents" = [] ∧
    (jsonObjectToMap intents : Args).read plainNumbers "intents" .mapListArg ≠
      (parseArgs intents).read plainNumbers "intents" .mapListArg := by
  refine ⟨by simp [jsonObjectToMap, fromJsonValue, fromJsonItems, Args.mapListArg], rfl, ?_⟩
  simp [Args.read, jsonObjectToMap, fromJsonValue, fromJsonItems, parseArgs, parseArg, Args.mapListArg]

end Agreement

section Context

variable {texts} {σ : Type} {service : CommandService σ} {members : List (String × Value)}

/-- The arguments of a command of the control loop are those of the envelope that are not null. -/
theorem lookup_commandArgs (distinct : (members.map Prod.fst).Nodup) (name : String) :
    (service.commandArgs (some (.object members))).lookup name =
      (members.lookup name).bind service.commandArg := by
  induction members with
  | nil => rfl
  | cons member members ih =>
    obtain ⟨key, value⟩ := member
    rw [List.map_cons, List.nodup_cons] at distinct
    have hrest := ih distinct.2
    rw [CommandService.commandArgs] at hrest ⊢
    rw [List.filterMap_cons, List.lookup_cons]
    have absent : members.lookup key = none := by
      rw [List.lookup_eq_none_iff]
      intro member hmember
      rw [bne_iff_ne]
      rintro rfl
      exact distinct.1 (List.mem_map.mpr ⟨member, hmember, rfl⟩)
    cases harg : service.commandArg value with
    | none =>
      simp only [Option.map_none, hrest]
      cases hname : name == key with
      | true =>
        rw [beq_iff_eq.mp hname, absent]
        exact harg.symm
      | false => rfl
    | some arg =>
      simp only [Option.map_some, List.lookup_cons, hrest]
      cases name == key with
      | true => exact harg.symm
      | false => rfl

/-- The accessors of a context read the arguments of the envelope. -/
theorem context_reads (distinct : (members.map Prod.fst).Nodup)
    (toString : ∀ v, (service.toString v).toList = (fromJsonValue v).text texts)
    (toInt : ∀ n, service.toInt n = texts.toInt n) (context : CompanionCommandContext)
    (hargs : context.args = service.commandArgs (some (.object members))) (name : String) :
    context.stringArg name = (jsonObjectToMap members : Args).stringArg texts name ∧
      context.intArg name = (jsonObjectToMap members : Args).intArg texts name := by
  have text (v : Value) : String.ofList ((fromJsonValue v).text texts) = service.toString v := by
    rw [← toString, String.ofList_toList]
  rw [CompanionCommandContext.stringArg, CompanionCommandContext.intArg, Args.stringArg, Args.intArg,
    hargs, lookup_commandArgs distinct, lookup_jsonObjectToMap]
  cases members.lookup name with
  | none => exact ⟨rfl, rfl⟩
  | some v =>
    cases v with
    | null => exact ⟨rfl, rfl⟩
    | string s => exact ⟨congrArg (fun s => (some s).filter isNotBlank) String.ofList_toList.symm, rfl⟩
    | number n =>
      exact ⟨congrArg (fun s => (some s).filter isNotBlank) (text (.number n)).symm,
        congrArg some (toInt n)⟩
    | bool b => exact ⟨congrArg (fun s => (some s).filter isNotBlank) (text (.bool b)).symm, rfl⟩
    | array items =>
      exact ⟨congrArg (fun s => (some s).filter isNotBlank) (text (.array items)).symm, rfl⟩
    | object members =>
      exact ⟨congrArg (fun s => (some s).filter isNotBlank) (text (.object members)).symm, rfl⟩

end Context

end

end AdbControl.Companion
