import Mathlib

set_option linter.unusedSectionVars false

namespace AdbControl.Framework

/-- Finite maps as the code's `HashMap` and `BTreeMap`: equal lookups make equal maps, and
listing goes in key order. -/
abbrev Keyed (κ V : Type*) [Ord κ] := Std.ExtTreeMap κ V

/-- Finite sets as the code's `BTreeSet`. -/
abbrev KeySet (κ : Type*) [Ord κ] := Std.ExtTreeSet κ

namespace Keyed

variable {κ V : Type*} [Ord κ] [Std.TransOrd κ] [Std.LawfulEqOrd κ]

/-- Equal lookups make equal maps. -/
theorem ext_lookup {m n : Keyed κ V} (h : ∀ k : κ, m[k]? = n[k]?) : m = n :=
  Std.ExtTreeMap.ext_getElem? h

theorem mem_iff_lookup (m : Keyed κ V) (k : κ) : k ∈ m ↔ ∃ v, m[k]? = some v := by
  rw [← Option.isSome_iff_exists, Std.ExtTreeMap.isSome_getElem?_iff_mem]

theorem contains_iff_lookup (m : Keyed κ V) (k : κ) :
    m.contains k = true ↔ ∃ v, m[k]? = some v := by
  rw [Std.ExtTreeMap.contains_iff_mem, mem_iff_lookup]

theorem values_eq_map_snd (m : Keyed κ V) : m.values = m.toList.map Prod.snd := by
  obtain ⟨⟨m⟩⟩ := m
  induction m using Quotient.inductionOn with
  | h m =>
    show m.inner.values = (Std.DTreeMap.Internal.Impl.Const.toList m.inner).map Prod.snd
    rw [Std.DTreeMap.Internal.Impl.values_eq_map_snd,
      Std.DTreeMap.Internal.Impl.Const.toList_eq_toListModel_map]
    simp [Function.comp_def]

theorem mem_values_iff (m : Keyed κ V) (v : V) : v ∈ m.values ↔ ∃ k : κ, m[k]? = some v := by
  rw [values_eq_map_snd, List.mem_map]
  constructor
  · rintro ⟨⟨k, w⟩, hmem, rfl⟩
    exact ⟨k, Std.ExtTreeMap.mem_toList_iff_getElem?_eq_some.mp hmem⟩
  · rintro ⟨k, hk⟩
    exact ⟨(k, v), Std.ExtTreeMap.mem_toList_iff_getElem?_eq_some.mpr hk, rfl⟩

/-- `HashMap::retain`. -/
def retain (m : Keyed κ V) (f : κ → V → Bool) : Keyed κ V :=
  Std.ExtTreeMap.ofList (m.toList.filter (fun e => f e.1 e.2))

section

variable [DecidableEq κ]

theorem lookup_retain (m : Keyed κ V) (f : κ → V → Bool) (j : κ) (v : V) :
    (m.retain f)[j]? = some v ↔ m[j]? = some v ∧ f j v = true := by
  have distinct : (m.toList.filter (fun e => f e.1 e.2)).Pairwise
      (fun a b => ¬compare a.1 b.1 = .eq) := Std.ExtTreeMap.distinct_keys_toList.filter _
  have kept (v : V) : (j, v) ∈ m.toList.filter (fun e => f e.1 e.2) ↔
      m[j]? = some v ∧ f j v = true := by
    rw [List.mem_filter, Std.ExtTreeMap.mem_toList_iff_getElem?_eq_some]
  have found (v : V) (h : (j, v) ∈ m.toList.filter (fun e => f e.1 e.2)) :
      (m.retain f)[j]? = some v :=
    Std.ExtTreeMap.getElem?_ofList_of_mem Std.ReflCmp.compare_self distinct h
  constructor
  · intro h
    by_cases hk : ((m.toList.filter (fun e => f e.1 e.2)).map Prod.fst).contains j = true
    · rw [List.contains_iff_mem] at hk
      obtain ⟨⟨k, u⟩, hu, hkey⟩ := List.mem_map.mp hk
      have hkey : k = j := hkey
      subst hkey
      have hsame : some u = some v := (found u hu).symm.trans h
      rw [← Option.some.inj hsame]
      exact (kept u).mp hu
    · have hnone : (m.retain f)[j]? = none :=
        Std.ExtTreeMap.getElem?_ofList_of_contains_eq_false (Bool.eq_false_iff.mpr hk)
      rw [hnone] at h
      cases h
  · intro h
    exact found v ((kept v).mpr h)

/-- Retaining entries changes nothing exactly when every entry is kept. -/
theorem retain_eq_self {m : Keyed κ V} {f : κ → V → Bool} :
    m.retain f = m ↔ ∀ (k : κ) (v : V), m[k]? = some v → f k v = true := by
  constructor
  · intro h k v hk
    rw [← h] at hk
    exact ((lookup_retain m f k v).mp hk).2
  · intro h
    apply ext_lookup
    intro k
    cases hk : m[k]? with
    | some v => exact (lookup_retain m f k v).mpr ⟨hk, h k v hk⟩
    | none =>
      cases hr : (m.retain f)[k]? with
      | none => rfl
      | some v =>
        rw [((lookup_retain m f k v).mp hr).1] at hk
        cases hk

@[simp] theorem lookup_insert (m : Keyed κ V) (k j : κ) (v : V) :
    (m.insert k v)[j]? = if j = k then some v else m[j]? := by
  simp only [Std.ExtTreeMap.getElem?_insert, Std.LawfulEqCmp.compare_eq_iff_eq,
    eq_comm (a := k)]

/-- What a map has after a write: at the key what was written, elsewhere what it had. -/
theorem lookup_insert_cases {m : Keyed κ V} {k j : κ} {v w : V}
    (h : (m.insert k v)[j]? = some w) : j = k ∧ w = v ∨ j ≠ k ∧ m[j]? = some w := by
  rw [lookup_insert] at h
  split_ifs at h with hj
  · exact Or.inl ⟨hj, (Option.some.inj h).symm⟩
  · exact Or.inr ⟨hj, h⟩

/-- The rule for what holds of every entry: a write keeps it where what is written has it. -/
theorem forall_insert {m : Keyed κ V} {P : κ → V → Prop} {k : κ} {v : V}
    (h : ∀ (j : κ) (w : V), m[j]? = some w → P j w) (hv : P k v) :
    ∀ (j : κ) (w : V), (m.insert k v)[j]? = some w → P j w := by
  intro j w hj
  rcases lookup_insert_cases hj with ⟨rfl, rfl⟩ | ⟨-, hj⟩
  · exact hv
  · exact h j w hj

/-- Values with distinct keys are written one after the other: each is found under its key, and
elsewhere nothing changes. -/
theorem lookup_insertAll {key : V → κ} {vs : List V} (distinct : (vs.map key).Nodup)
    (m : Keyed κ V) (j : κ) (w : V) :
    (vs.foldl (fun m v => m.insert (key v) v) m)[j]? = some w ↔
      w ∈ vs ∧ key w = j ∨ j ∉ vs.map key ∧ m[j]? = some w := by
  induction vs generalizing m with
  | nil => simp
  | cons v vs ih =>
    rw [List.map_cons, List.nodup_cons] at distinct
    rw [List.foldl_cons, ih distinct.2, lookup_insert, List.map_cons, List.mem_cons,
      List.mem_cons, not_or]
    by_cases hj : j = key v
    · subst hj
      simp only [if_true, Option.some.injEq, distinct.1, not_false_eq_true, true_and, not_true_eq_false,
        false_and, or_false]
      constructor
      · rintro (⟨hw, hsame⟩ | rfl)
        · exact ⟨Or.inr hw, hsame⟩
        · exact ⟨Or.inl rfl, rfl⟩
      · rintro ⟨rfl | hw, hsame⟩
        · exact Or.inr rfl
        · exact Or.inl ⟨hw, hsame⟩
    · simp only [hj, if_false, not_false_eq_true, true_and]
      constructor
      · rintro (⟨hw, hsame⟩ | hrest)
        · exact Or.inl ⟨Or.inr hw, hsame⟩
        · exact Or.inr hrest
      · rintro (⟨rfl | hw, hsame⟩ | hrest)
        · exact (hj hsame.symm).elim
        · exact Or.inl ⟨hw, hsame⟩
        · exact Or.inr hrest

@[simp] theorem lookup_erase (m : Keyed κ V) (k j : κ) :
    (m.erase k)[j]? = if j = k then none else m[j]? := by
  simp only [Std.ExtTreeMap.getElem?_erase, Std.LawfulEqCmp.compare_eq_iff_eq,
    eq_comm (a := k)]

theorem mem_insert_iff (m : Keyed κ V) (k j : κ) (v : V) : j ∈ m.insert k v ↔ j = k ∨ j ∈ m := by
  rw [Std.ExtTreeMap.mem_insert, Std.LawfulEqCmp.compare_eq_iff_eq, eq_comm (a := k)]

theorem mem_erase_iff (m : Keyed κ V) (k j : κ) : j ∈ m.erase k ↔ j ≠ k ∧ j ∈ m := by
  rw [Std.ExtTreeMap.mem_erase, ne_eq, Std.LawfulEqCmp.compare_eq_iff_eq, eq_comm (a := k)]

/-- Writing a value changes nothing exactly when the key holds it already. -/
theorem insert_eq_self {m : Keyed κ V} {k : κ} {v : V} :
    m.insert k v = m ↔ m[k]? = some v := by
  constructor
  · intro h
    rw [← h]
    simp
  · intro h
    apply ext_lookup
    intro j
    by_cases hj : j = k
    · subst hj; simp [h]
    · simp [hj]

/-- Removing a key changes nothing exactly when it is absent. -/
theorem erase_eq_self {m : Keyed κ V} {k : κ} : m.erase k = m ↔ m[k]? = none := by
  constructor
  · intro h
    rw [← h]
    simp
  · intro h
    apply ext_lookup
    intro j
    by_cases hj : j = k
    · subst hj; simp [h]
    · simp [hj]

/-- A map is rebuilt from its listing. -/
theorem ofList_toList (m : Keyed κ V) : Std.ExtTreeMap.ofList m.toList = m := by
  apply ext_lookup
  intro k
  cases hk : m[k]? with
  | some v =>
    exact Std.ExtTreeMap.getElem?_ofList_of_mem Std.ReflCmp.compare_self
      Std.ExtTreeMap.distinct_keys_toList (Std.ExtTreeMap.mem_toList_iff_getElem?_eq_some.mpr hk)
  | none =>
    apply Std.ExtTreeMap.getElem?_ofList_of_contains_eq_false
    rw [Bool.eq_false_iff, ne_eq, List.contains_iff_mem]
    rintro hmem
    obtain ⟨⟨j, v⟩, hv, rfl⟩ := List.mem_map.mp hmem
    rw [Std.ExtTreeMap.mem_toList_iff_getElem?_eq_some] at hv
    simp [hk] at hv

end

end Keyed

namespace KeySet

variable {κ : Type*} [Ord κ] [Std.TransOrd κ] [Std.LawfulEqOrd κ]

theorem mem_insert_iff (s : KeySet κ) (j k : κ) : j ∈ s.insert k ↔ j = k ∨ j ∈ s := by
  rw [Std.ExtTreeSet.mem_insert, Std.LawfulEqCmp.compare_eq_iff_eq, eq_comm (a := k)]

theorem mem_erase_iff (s : KeySet κ) (j k : κ) : j ∈ s.erase k ↔ j ≠ k ∧ j ∈ s := by
  rw [Std.ExtTreeSet.mem_erase, ne_eq, Std.LawfulEqCmp.compare_eq_iff_eq, eq_comm (a := k)]

/-- Adding a key changes nothing exactly when it is there already. -/
theorem insert_eq_self {s : KeySet κ} {k : κ} : s.insert k = s ↔ k ∈ s := by
  constructor
  · intro h
    rw [← h, mem_insert_iff]
    exact Or.inl rfl
  · intro h
    apply Std.ExtTreeSet.ext_mem
    intro j
    rw [mem_insert_iff]
    exact ⟨fun hj => hj.elim (fun he => he ▸ h) id, Or.inr⟩

/-- Taking a key out changes nothing exactly when it is absent. -/
theorem erase_eq_self {s : KeySet κ} {k : κ} : s.erase k = s ↔ k ∉ s := by
  constructor
  · intro h
    rw [← h, mem_erase_iff]
    exact fun hk => hk.1 rfl
  · intro h
    apply Std.ExtTreeSet.ext_mem
    intro j
    rw [mem_erase_iff]
    exact ⟨fun hj => hj.2, fun hj => ⟨fun he => h (he ▸ hj), hj⟩⟩

end KeySet

end AdbControl.Framework
