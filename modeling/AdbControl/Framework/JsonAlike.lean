import AdbControl.Framework.Json

namespace AdbControl.Framework

/-- Two values with the same shape and the same scalars, up to the order of an object's members, where
`R` relates their numbers. -/
inductive Alike (R : Number → Number → Prop) : Value → Value → Prop
  | null : Alike R .null .null
  | bool (b : Bool) : Alike R (.bool b) (.bool b)
  | number {n m : Number} (h : R n m) : Alike R (.number n) (.number m)
  | string (s : String) : Alike R (.string s) (.string s)
  | array {items items' : List Value} (length : items.length = items'.length)
    (at' : ∀ (i : Nat) (v v' : Value), items[i]? = some v → items'[i]? = some v' → Alike R v v') :
    Alike R (.array items) (.array items')
  | object {members members' : List (String × Value)}
    (keys : ∀ key, members.lookup key = none ↔ members'.lookup key = none)
    (values : ∀ (key : String) (v v' : Value), members.lookup key = some v →
      members'.lookup key = some v' → Alike R v v') :
    Alike R (.object members) (.object members')

namespace Alike

variable {R S : Number → Number → Prop} {v v' v'' : Value} {members members' : List (String × Value)}

theorem mono (hRS : ∀ n m, R n m → S n m) (h : Alike R v v') : Alike S v v' := by
  induction h with
  | null => exact .null
  | bool b => exact .bool b
  | number h => exact .number (hRS _ _ h)
  | string s => exact .string s
  | array length _ ih => exact .array length ih
  | object keys _ ih => exact .object keys ih

theorem trans (hR : ∀ n m k, R n m → R m k → R n k) (h : Alike R v v') (h' : Alike R v' v'') :
    Alike R v v'' := by
  induction h generalizing v'' with
  | null => exact h'
  | bool b => exact h'
  | string s => exact h'
  | number h =>
    cases h' with
    | number h' => exact .number (hR _ _ _ h h')
  | array length _ ih =>
    cases h' with
    | array length' at' =>
      refine .array (length.trans length') ?_
      intro i v v'' hv hv''
      have hlt : i < _ := (List.getElem?_eq_some_iff.mp hv).1
      have hmiddle := List.getElem?_eq_getElem (length ▸ hlt)
      exact ih i v _ hv hmiddle (at' i _ v'' hmiddle hv'')
  | object keys _ ih =>
    cases h' with
    | object keys' values' =>
      refine .object (fun key => (keys key).trans (keys' key)) ?_
      intro key v v'' hv hv''
      obtain ⟨middle, hmiddle⟩ := Option.ne_none_iff_exists'.mp fun hnone => by
        rw [(keys key).mpr hnone] at hv
        cases hv
      exact ih key v middle hv hmiddle (values' key middle v'' hmiddle hv'')

theorem lookup {key : String} (h : Alike R (.object members) (.object members'))
    (hv : members.lookup key = some v) : ∃ v', members'.lookup key = some v' ∧ Alike R v v' := by
  cases h with
  | object keys values =>
    cases hv' : members'.lookup key with
    | none =>
      rw [(keys key).mpr hv'] at hv
      cases hv
    | some v' => exact ⟨v', rfl, values key v v' hv hv'⟩

theorem lookup_none {key : String} (h : Alike R (.object members) (.object members'))
    (hv : members.lookup key = none) : members'.lookup key = none := by
  cases h with
  | object keys _ => exact (keys key).mp hv

theorem exists_object (h : Alike R (.object members) v') : ∃ members', v' = .object members' := by
  cases h with
  | object _ _ => exact ⟨_, rfl⟩

theorem eq_string {s : String} (h : Alike R (.string s) v') : v' = .string s := by
  cases h
  rfl

theorem exists_number {n : Number} (h : Alike R (.number n) v') : ∃ m, v' = .number m ∧ R n m := by
  cases h with
  | number h => exact ⟨_, rfl, h⟩

end Alike

theorem mem_of_lookup {members : List (String × Value)} {key : String} {value : Value}
    (h : members.lookup key = some value) : (key, value) ∈ members := by
  rw [List.lookup_eq_some_iff] at h
  obtain ⟨before, after, rfl, -⟩ := h
  exact List.mem_append_right before List.mem_cons_self

/-- Where no key stands twice, the fields of a struct are what stands under their names. -/
theorem Value.structFields_of_nodup {members : List (String × Value)}
    (h : (members.map Prod.fst).Nodup) (names : List String) :
    (Value.object members).structFields names = some (names.map fun name => members.lookup name) := by
  rw [Value.structFields, if_pos]
  rw [List.all_eq_true]
  intro name _
  rw [decide_eq_true_eq, ← List.countP_eq_length_filter]
  calc members.countP (fun m => m.1 == name) = (members.map Prod.fst).count name := by
        rw [List.count, List.countP_map]
        rfl
    _ ≤ 1 := List.nodup_iff_count_le_one.mp h name

theorem Alike.refl {R : Number → Number → Prop} (hR : ∀ n, R n n) : ∀ v, Alike R v v
  | .null => .null
  | .bool b => .bool b
  | .number n => .number (hR n)
  | .string s => .string s
  | .array items => .array rfl fun i v v' hv hv' => by
    obtain rfl : v = v' := Option.some.inj (hv.symm.trans hv')
    have hmem := List.sizeOf_lt_of_mem (List.mem_of_getElem? hv)
    exact Alike.refl hR v
  | .object members => .object (fun _ => Iff.rfl) fun key v v' hv hv' => by
    obtain rfl : v = v' := Option.some.inj (hv.symm.trans hv')
    have hmem := List.sizeOf_lt_of_mem (mem_of_lookup hv)
    have hpair := Prod.mk.sizeOf_spec key v
    exact Alike.refl hR v
termination_by v => sizeOf v
decreasing_by
  · rw [Value.array.sizeOf_spec]
    omega
  · rw [Value.object.sizeOf_spec]
    omega

mutual

/-- No object of the value has a key twice, and all its numbers are good ones. -/
def Value.Good (good : Number → Prop) : Value → Prop
  | .number n => good n
  | .array items => goodItems good items
  | .object members => (members.map Prod.fst).Nodup ∧ goodMembers good members
  | _ => True

def goodItems (good : Number → Prop) : List Value → Prop
  | [] => True
  | item :: items => item.Good good ∧ goodItems good items

def goodMembers (good : Number → Prop) : List (String × Value) → Prop
  | [] => True
  | (_, value) :: members => value.Good good ∧ goodMembers good members

end

theorem goodMembers_iff {good : Number → Prop} {members : List (String × Value)} :
    goodMembers good members ↔ ∀ member ∈ members, member.2.Good good := by
  induction members with
  | nil => exact iff_of_true trivial fun _ => nofun
  | cons member members ih => rw [goodMembers, ih, List.forall_mem_cons]

end AdbControl.Framework
