import Mathlib

namespace AdbControl.Framework

/-- `serde_json::Number`; a floating-point number is kept as its text. -/
inductive Number
  | posInt (n : Nat)
  | negInt (n : Int)
  | float (text : String)
  deriving DecidableEq, Repr

def Number.text : Number → List Char
  | .posInt n => n.repr.toList
  | .negInt n => n.repr.toList
  | .float text => text.toList

/-- `serde_json::Value`; an object lists its members. -/
inductive Value
  | null
  | bool (b : Bool)
  | number (n : Number)
  | string (s : String)
  | array (items : List Value)
  | object (members : List (String × Value))
  deriving Repr

namespace Value

instance : Inhabited Value := ⟨null⟩

/-- `Value::get` with a string index. -/
def get? (key : String) : Value → Option Value
  | object members => members.lookup key
  | _ => none

/-- A member of an object, as `encoding/json` reads it into a field that holds a default: an absent
or null member leaves the default. -/
def memberOr (v : Value) (key : String) (default : Value) : Value :=
  match v.get? key with
  | none | some .null => default
  | some member => member

def asStr : Value → Option String
  | string s => some s
  | _ => none

def asBool : Value → Option Bool
  | bool b => some b
  | _ => none

def asArray : Value → Option (List Value)
  | array items => some items
  | _ => none

def isObject : Value → Bool
  | object _ => true
  | _ => false

/-- An unsigned integer below `2^bits`, as serde reads `u16`, `u32` and `u64`. -/
def asUnsigned (bits : Nat) : Value → Option Nat
  | number (.posInt n) => if n < 2^bits then some n else none
  | _ => none

/-- `value[key] = item` on an object, or on `null`, which becomes one. -/
def set (v : Value) (key : String) (item : Value) : Value :=
  match v with
  | object members =>
    if (members.lookup key).isSome then
      object (members.map (fun m => if m.1 = key then (key, item) else m))
    else object (members ++ [(key, item)])
  | null => object [(key, item)]
  | other => other

/-- The fields a derived `Deserialize` sees, in declaration order: members by name, with a
repeated field refused, or the items of an array by position, with a surplus item refused. -/
def structFields (names : List String) : Value → Option (List (Option Value))
  | object members =>
    if names.all (fun name => (members.filter (fun m => m.1 == name)).length ≤ 1) then
      some (names.map (fun name => members.lookup name))
    else none
  | array items =>
    if items.length ≤ names.length then
      some ((List.range names.length).map (fun i => items[i]?))
    else none
  | _ => none

/-- A `Vec<String>`. -/
def asStrings (v : Value) : Option (List String) := v.asArray.bind (·.mapM asStr)

def quoted (s : String) : List Char :=
  let hex (n : Nat) : Char := (Nat.toDigits 16 n).headD '0'
  let escape (c : Char) : List Char :=
    if c = '"' then ['\\', '"']
    else if c = '\\' then ['\\', '\\']
    else if c.toNat = 8 then ['\\', 'b']
    else if c.toNat = 9 then ['\\', 't']
    else if c.toNat = 10 then ['\\', 'n']
    else if c.toNat = 12 then ['\\', 'f']
    else if c.toNat = 13 then ['\\', 'r']
    else if c.toNat < 32 then ['\\', 'u', '0', '0', hex (c.toNat / 16), hex (c.toNat % 16)]
    else [c]
  ['"'] ++ s.toList.flatMap escape ++ ['"']

def newline (depth : Nat) : List Char := '\n' :: List.replicate (2 * depth) ' '

mutual

/-- The text of `serde_json::to_vec_pretty`, at a nesting depth. -/
def pretty (depth : Nat) : Value → List Char
  | null => "null".toList
  | bool b => (if b then "true" else "false").toList
  | number n => n.text
  | string s => quoted s
  | array items =>
    if items.isEmpty then "[]".toList
    else ['['] ++ prettyItems (depth + 1) items ++ newline depth ++ [']']
  | object members =>
    if members.isEmpty then ['\x7b', '\x7d']
    else ['\x7b'] ++ prettyMembers (depth + 1) members ++ newline depth ++ ['\x7d']

def prettyItems (depth : Nat) : List Value → List Char
  | [] => []
  | item :: rest =>
    newline depth ++ pretty depth item ++ (if rest.isEmpty then [] else [',']) ++
      prettyItems depth rest

def prettyMembers (depth : Nat) : List (String × Value) → List Char
  | [] => []
  | (key, item) :: rest =>
    newline depth ++ quoted key ++ ": ".toList ++ pretty depth item ++
      (if rest.isEmpty then [] else [',']) ++ prettyMembers depth rest

end

/-- `serde_json::to_vec_pretty`. -/
def prettyBytes (v : Value) : List UInt8 := (v.pretty 0).flatMap String.utf8EncodeChar

theorem get?_set_self {v : Value} {key : String} (item : Value) (h : v.isObject = true) :
    (v.set key item).get? key = some item := by
  cases v with
  | object members =>
    simp only [set]
    split_ifs with hk
    · have found : (members.map (fun m => if m.1 = key then (key, item) else m)).lookup key =
          (members.lookup key).map (fun _ => item) := by
        clear hk h
        induction members with
        | nil => rfl
        | cons m members ih =>
          obtain ⟨name, old⟩ := m
          by_cases hm : name = key
          · simp [hm]
          · have hne : (key == name) = false := beq_false_of_ne (Ne.symm hm)
            simp [hm, List.lookup_cons, hne, ih]
      obtain ⟨old, hold⟩ := Option.isSome_iff_exists.mp hk
      rw [get?, found, hold]
      rfl
    · have hnone : members.lookup key = none := Option.not_isSome_iff_eq_none.mp hk
      rw [get?, List.lookup_append, hnone]
      simp
  | _ => cases h

theorem isObject_of_get? {v item : Value} {key : String} (h : v.get? key = some item) :
    v.isObject = true := by
  cases v with
  | object members => rfl
  | _ => cases h

/-- Every member of an object has a name of its own, as in `serde_json::Map`. -/
def KeysOnce : Value → Prop
  | object members => (members.map Prod.fst).Nodup
  | _ => True

theorem get?_set_other {v : Value} {key other : String} (item : Value) (h : other ≠ key) :
    (v.set key item).get? other = v.get? other := by
  have hne : (other == key) = false := beq_false_of_ne h
  cases v with
  | object members =>
    simp only [set]
    split_ifs with hk
    · clear hk
      induction members with
      | nil => rfl
      | cons m members ih =>
        obtain ⟨name, old⟩ := m
        simp only [get?, List.map_cons, List.lookup_cons] at ih ⊢
        by_cases hm : name = key
        · simp only [hm, if_true, List.lookup_cons, hne, ih]
        · simp only [hm, if_false, List.lookup_cons, ih]
    · rw [get?, get?, List.lookup_append]
      simp [List.lookup_cons, hne]
  | null => simp [set, get?, List.lookup_cons, hne]
  | _ => rfl

theorem keysOnce_set {v : Value} (once : v.KeysOnce) (key : String) (item : Value) :
    (v.set key item).KeysOnce := by
  cases v with
  | object members =>
    simp only [set]
    split_ifs with hk
    · have names : (members.map (fun m => if m.1 = key then (key, item) else m)).map Prod.fst =
          members.map Prod.fst := by
        rw [List.map_map]
        apply List.map_congr_left
        intro m _
        simp only [Function.comp_apply]
        split_ifs with hm
        · exact hm.symm
        · rfl
      rw [KeysOnce, names]
      exact once
    · have fresh : key ∉ members.map Prod.fst := by
        intro hmem
        obtain ⟨m, hm, rfl⟩ := List.mem_map.mp hmem
        exact hk (List.lookup_isSome_iff.mpr ⟨m, hm, beq_self_eq_true m.1⟩)
      rw [KeysOnce, List.map_append, List.map_singleton, List.nodup_append_comm,
        List.singleton_append, List.nodup_cons]
      exact ⟨fresh, once⟩
  | null => exact List.nodup_singleton key
  | _ => trivial

/-- Setting a member to what it is changes nothing. -/
theorem set_eq_self {v item : Value} {key : String} (once : v.KeysOnce)
    (h : v.get? key = some item) : v.set key item = v := by
  cases v with
  | object members =>
    have hfound : members.lookup key = some item := h
    rw [set, if_pos (by rw [hfound]; rfl)]
    congr 1
    clear h
    induction members with
    | nil => rfl
    | cons m members ih =>
      obtain ⟨name, old⟩ := m
      obtain ⟨fresh, once⟩ := List.nodup_cons.mp once
      by_cases hm : name = key
      · subst hm
        rw [List.lookup_cons_self, Option.some.injEq] at hfound
        subst hfound
        have others : members.map (fun m => if m.1 = name then (name, old) else m) = members := by
          refine (List.map_congr_left ?_).trans (List.map_id members)
          intro m hmem
          rw [if_neg]
          · rfl
          · intro he
            exact fresh (List.mem_map.mpr ⟨m, hmem, he⟩)
        rw [List.map_cons, if_pos rfl, others]
      · have hne : (key == name) = false := beq_false_of_ne (Ne.symm hm)
        rw [List.lookup_cons, hne] at hfound
        rw [List.map_cons, if_neg hm, ih once hfound]
  | _ => cases h

end Value

end AdbControl.Framework
