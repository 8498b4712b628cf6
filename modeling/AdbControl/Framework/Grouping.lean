import AdbControl.Framework.Classes

namespace AdbControl.Framework

variable {α κ : Type*} [DecidableEq κ]

theorem nodup_eraseDups (ks : List κ) : ks.eraseDups.Nodup := by
  have apart := (@Classes.eraseDupsBy_spec κ (· == ·) ks).2
  refine apart.imp ?_
  intro a b hba hab
  simp [hab] at hba

theorem eraseDups_concat_new {ks : List κ} {k : κ} (h : k ∉ ks) :
    (ks ++ [k]).eraseDups = ks.eraseDups ++ [k] := by
  rw [List.eraseDups_append, List.removeAll, List.filter_cons_of_pos (by simpa using h)]
  rfl

theorem eraseDups_concat_old {ks : List κ} {k : κ} (h : k ∈ ks) :
    (ks ++ [k]).eraseDups = ks.eraseDups := by
  rw [List.eraseDups_append, List.removeAll, List.filter_cons_of_neg (by simpa using h)]
  simp

theorem eraseDups_of_nodup {ks : List κ} (h : ks.Nodup) : ks.eraseDups = ks := by
  induction ks using List.reverseRecOn with
  | nil => rfl
  | append_singleton ks k ih =>
    obtain ⟨hks, -, hk⟩ := List.nodup_append'.mp h
    have new : k ∉ ks := fun hmem => hk hmem (List.mem_singleton_self k)
    rw [eraseDups_concat_new new, ih hks]

theorem filter_eraseDups (p : κ → Bool) (ks : List κ) :
    ks.eraseDups.filter p = (ks.filter p).eraseDups := by
  induction ks using List.reverseRecOn with
  | nil => rfl
  | append_singleton ks k ih =>
    rw [List.filter_append]
    by_cases hp : p k = true
    · rw [List.filter_cons_of_pos hp, List.filter_nil]
      by_cases hk : k ∈ ks
      · rw [eraseDups_concat_old hk, eraseDups_concat_old (List.mem_filter.mpr ⟨hk, hp⟩), ih]
      · have new : k ∉ ks.filter p := fun hmem => hk (List.mem_of_mem_filter hmem)
        rw [eraseDups_concat_new hk, eraseDups_concat_new new, List.filter_append, ih,
          List.filter_cons_of_pos hp, List.filter_nil]
    · rw [List.filter_cons_of_neg hp, List.filter_nil, List.append_nil, ← ih]
      by_cases hk : k ∈ ks
      · rw [eraseDups_concat_old hk]
      · rw [eraseDups_concat_new hk, List.filter_append, List.filter_cons_of_neg hp, List.filter_nil,
          List.append_nil]

/-- What is appended is no more than what is not there yet. -/
theorem eraseDups_append_of_subset {ks more : List κ} (h : ∀ k ∈ more, k ∈ ks) :
    (ks ++ more).eraseDups = ks.eraseDups := by
  have nothing : more.removeAll ks = [] := by
    rw [List.removeAll, List.filter_eq_nil_iff]
    intro k hk
    simpa using h k hk
  rw [List.eraseDups_append, nothing, List.eraseDups_nil, List.append_nil]

theorem removeAll_eraseDups (ks more : List κ) :
    more.removeAll ks.eraseDups = more.removeAll ks := by
  simp only [List.removeAll]
  apply List.filter_congr
  intro k _
  simp [List.mem_eraseDups]

theorem eraseDups_eraseDups_append (ks more : List κ) :
    (ks.eraseDups ++ more).eraseDups = (ks ++ more).eraseDups := by
  rw [List.eraseDups_append, List.eraseDups_append, eraseDups_of_nodup (nodup_eraseDups ks),
    removeAll_eraseDups]

theorem eraseDups_append_eraseDups (ks more : List κ) :
    (ks ++ (ks ++ more).eraseDups).eraseDups = (ks ++ more).eraseDups := by
  have first : (ks ++ (ks.eraseDups ++ (more.removeAll ks).eraseDups)).eraseDups =
      (ks ++ (more.removeAll ks).eraseDups).eraseDups := by
    rw [← List.append_assoc, ← eraseDups_eraseDups_append,
      eraseDups_append_of_subset (fun k hk => List.mem_eraseDups.mp hk), eraseDups_eraseDups_append]
  have second : ((more.removeAll ks).eraseDups).removeAll ks = (more.removeAll ks).eraseDups := by
    rw [List.removeAll, List.filter_eq_self]
    intro k hk
    have hk := List.mem_eraseDups.mp hk
    rw [List.removeAll, List.mem_filter] at hk
    exact hk.2
  rw [@List.eraseDups_append _ _ _ ks more, first, List.eraseDups_append, second,
    eraseDups_of_nodup (nodup_eraseDups _)]

/-- The items that have the key. -/
def ofKey (key : α → κ) (k : κ) (as : List α) : List α := as.filter (fun a => key a = k)

/-- The items joined to the first, one after the other; of no items, `empty`. -/
def joinAll (join : α → α → α) (empty : α) : List α → α
  | [] => empty
  | a :: as => as.foldl join a

/-- The items of each key joined, in the order in which the keys come first. -/
def grouped (key : α → κ) (join : α → α → α) (empty : α) (as : List α) : List α :=
  (as.map key).eraseDups.map fun k => joinAll join empty (ofKey key k as)

variable {key : α → κ} {join : α → α → α} {empty : α} {as : List α} {a : α}

theorem ofKey_concat_self : ofKey key (key a) (as ++ [a]) = ofKey key (key a) as ++ [a] := by
  simp [ofKey]

theorem ofKey_concat_other {k : κ} (h : k ≠ key a) : ofKey key k (as ++ [a]) = ofKey key k as := by
  simp [ofKey, Ne.symm h]

/-- The groups of all keys are the items again. -/
theorem flatMap_ofKey_perm {ks : List κ} (distinct : ks.Nodup) (h : ∀ a ∈ as, key a ∈ ks) :
    (ks.flatMap fun k => ofKey key k as).Perm as := by
  induction as with
  | nil => simp [ofKey]
  | cons a as ih =>
    obtain ⟨hkey, has⟩ := List.forall_mem_cons.mp h
    obtain ⟨front, back, rfl⟩ := List.append_of_mem hkey
    have self : ofKey key (key a) (a :: as) = a :: ofKey key (key a) as := by simp [ofKey]
    have other {k : κ} (hk : key a ≠ k) : ofKey key k (a :: as) = ofKey key k as := by
      simp [ofKey, hk]
    obtain ⟨-, hback, hfront⟩ := List.nodup_append'.mp distinct
    have before : front.flatMap (fun k => ofKey key k (a :: as)) =
        front.flatMap fun k => ofKey key k as :=
      List.flatMap_congr fun k hk => other fun hka => hfront (hka ▸ hk) List.mem_cons_self
    have after : back.flatMap (fun k => ofKey key k (a :: as)) =
        back.flatMap fun k => ofKey key k as :=
      List.flatMap_congr fun k hk => other fun hka => (List.nodup_cons.mp hback).1 (hka ▸ hk)
    have rest := ih has
    rw [List.flatMap_append, List.flatMap_cons] at rest ⊢
    rw [before, after, self, List.cons_append]
    exact List.perm_middle.trans (rest.cons a)

theorem joinAll_concat (h : as ≠ []) :
    joinAll join empty (as ++ [a]) = join (joinAll join empty as) a := by
  cases as with
  | nil => exact absurd rfl h
  | cons b as => simp [joinAll]

/-- An item of a new key is a group of its own, after the others. -/
theorem grouped_concat_new (h : key a ∉ as.map key) :
    grouped key join empty (as ++ [a]) = grouped key join empty as ++ [a] := by
  have alone : ofKey key (key a) as = [] := by
    rw [ofKey, List.filter_eq_nil_iff]
    intro b hb
    simp only [decide_eq_true_eq]
    rintro hkey
    exact h (hkey ▸ List.mem_map_of_mem hb)
  have keys : ((as ++ [a]).map key).eraseDups = (as.map key).eraseDups ++ [key a] := by
    rw [List.map_append, List.map_singleton, eraseDups_concat_new h]
  rw [grouped, keys, List.map_append, List.map_singleton, ofKey_concat_self, alone]
  congr 1
  apply List.map_congr_left
  intro k hk
  have other : k ≠ key a := by
    rintro rfl
    exact h (List.mem_eraseDups.mp hk)
  rw [ofKey_concat_other other]

/-- An item of a known key is joined to the group of this key. -/
theorem grouped_concat_old {i : Nat} (h : (as.map key).eraseDups[i]? = some (key a)) :
    grouped key join empty (as ++ [a]) =
      (grouped key join empty as).set i (join ((grouped key join empty as).getD i empty) a) := by
  have known : key a ∈ as.map key := List.mem_eraseDups.mp (List.mem_of_getElem? h)
  have keys : ((as ++ [a]).map key).eraseDups = (as.map key).eraseDups := by
    rw [List.map_append, List.map_singleton, eraseDups_concat_old known]
  have nonempty : ofKey key (key a) as ≠ [] := by
    obtain ⟨b, hb, hkey⟩ := List.mem_map.mp known
    exact List.ne_nil_of_mem (List.mem_filter.mpr ⟨hb, by simpa using hkey⟩)
  have group : (grouped key join empty as).getD i empty =
      joinAll join empty (ofKey key (key a) as) := by
    rw [List.getD_eq_getElem?_getD, grouped, List.getElem?_map, h]
    rfl
  rw [group]
  apply List.ext_getElem?
  intro j
  rw [grouped, keys, List.getElem?_map, List.getElem?_set, grouped, List.getElem?_map,
    List.length_map]
  by_cases hj : i = j
  · subst hj
    have hlt : i < (as.map key).eraseDups.length := (List.getElem?_eq_some_iff.mp h).1
    rw [if_pos rfl, if_pos hlt, h, Option.map_some, ofKey_concat_self, joinAll_concat nonempty]
  · rw [if_neg hj]
    cases hk : (as.map key).eraseDups[j]? with
    | none => rfl
    | some k =>
      have other : k ≠ key a := by
        rintro rfl
        have hlt : i < (as.map key).eraseDups.length := (List.getElem?_eq_some_iff.mp h).1
        exact hj ((List.getElem?_inj hlt (nodup_eraseDups _)).mp (h.trans hk.symm))
      rw [Option.map_some, Option.map_some, ofKey_concat_other other]

end AdbControl.Framework
