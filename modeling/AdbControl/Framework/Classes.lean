import Mathlib

namespace AdbControl.Framework.Classes

variable {α β : Type*} {r : α → α → Bool}

/-- Adds what is made of an item, unless the list knows the item already. -/
def addNew (mk : α → β) (known : β → α → Bool) (acc : List β) (a : α) : List β :=
  if acc.any (known · a) then acc else acc ++ [mk a]

/-- The first items of the classes come one by one: the first of a list, then those of the items
that are not of its class. -/
theorem eraseDupsBy_induction {P : List α → List α → Prop} (nil : P [] [])
    (cons : ∀ a as firsts, P (as.filter (fun b => r b a = false)) firsts → P (a :: as) (a :: firsts))
    (as : List α) : P as (as.eraseDupsBy r) := by
  induction h : as.length using Nat.strongRecOn generalizing as with
  | ind n ih =>
    cases as with
    | nil => exact nil
    | cons a as =>
      rw [List.eraseDupsBy_cons]
      apply cons
      have shorter : (as.filter (fun b => r b a = false)).length < n := by
        rw [← h]
        exact Nat.lt_succ_of_le (List.length_filter_le _ as)
      exact ih _ shorter _ rfl

/-- The first items are items of the list, and no two of them are of one class. -/
theorem eraseDupsBy_spec (as : List α) :
    (∀ b ∈ as.eraseDupsBy r, b ∈ as) ∧ (as.eraseDupsBy r).Pairwise (fun a b => r b a = false) := by
  refine @eraseDupsBy_induction α r (fun as firsts => (∀ b ∈ firsts, b ∈ as) ∧
    firsts.Pairwise (fun a b => r b a = false)) ⟨by simp, List.Pairwise.nil⟩ ?_ as
  intro a as firsts ih
  obtain ⟨hmem, hapart⟩ := ih
  refine ⟨?_, List.pairwise_cons.mpr ⟨?_, hapart⟩⟩
  · intro b hb
    rcases List.mem_cons.mp hb with rfl | hb
    · exact List.mem_cons_self
    · exact List.mem_cons_of_mem a (List.mem_of_mem_filter (hmem b hb))
  · intro b hb
    simpa using (List.mem_filter.mp (hmem b hb)).2

/-- The item that is kept of a class is its first in the list. -/
theorem find?_eraseDupsBy (trans : ∀ {a b c}, r a b = true → r b c = true → r a c = true)
    (as : List α) (a : α) : (as.eraseDupsBy r).find? (r a) = as.find? (r a) := by
  refine @eraseDupsBy_induction α r (fun as firsts => firsts.find? (r a) = as.find? (r a)) rfl ?_ as
  intro b as firsts ih
  by_cases hb : r a b = true
  · rw [List.find?_cons_of_pos hb, List.find?_cons_of_pos hb]
  · rw [List.find?_cons_of_neg hb, List.find?_cons_of_neg hb, ih, List.find?_filter]
    congr 1
    funext c
    cases hac : r a c with
    | false => simp
    | true =>
      have hcb : r c b ≠ true := fun h => hb (trans hac h)
      simp [hcb]

/-- Of items of different classes, those of one item's class are that item. -/
theorem filter_of_apart (refl : ∀ a, r a a = true) (symm : ∀ {a b}, r a b = true → r b a = true)
    {as : List α} (apart : as.Pairwise (fun a b => r b a = false)) {a : α} (h : a ∈ as) :
    as.filter (fun b => r b a) = [a] := by
  induction as with
  | nil => cases h
  | cons b as ih =>
    obtain ⟨hhead, htail⟩ := List.pairwise_cons.mp apart
    rcases List.mem_cons.mp h with rfl | h
    · have others : as.filter (fun b => r b a) = [] := by
        rw [List.filter_eq_nil_iff]
        intro b hb
        rw [hhead b hb]
        simp
      rw [List.filter_cons, if_pos (refl a), others]
    · have hskip : ¬r b a = true := by
        intro hba
        have hab := symm hba
        rw [hhead a h] at hab
        cases hab
      rw [List.filter_cons, if_neg hskip, ih htail h]

/-- Adding the items of a list one by one keeps what is made of the first of each class. -/
theorem foldl_addNew (symm : ∀ {a b}, r a b = true → r b a = true) {mk : α → β}
    {known : β → α → Bool} (h : ∀ a b, known (mk a) b = r a b) (as : List α) :
    as.foldl (addNew mk known) [] = (as.eraseDupsBy r).map mk := by
  suffices general : ∀ acc : List α, as.foldl (addNew mk known) (acc.map mk) =
      (acc ++ (as.filter (fun a => !acc.any (r · a))).eraseDupsBy r).map mk by
    simpa using general []
  induction as with
  | nil =>
    intro acc
    simp
  | cons a as ih =>
    intro acc
    have found : (acc.map mk).any (known · a) = acc.any (r · a) := by
      rw [List.any_map]
      congr 1
      funext b
      exact h b a
    rw [List.foldl_cons, addNew, found]
    by_cases hacc : acc.any (r · a) = true
    · rw [if_pos hacc, ih acc, List.filter_cons_of_neg (by simp [hacc])]
    · have longer := ih (acc ++ [a])
      rw [List.map_append, List.map_singleton] at longer
      rw [if_neg hacc, longer, List.filter_cons_of_pos (by simpa using hacc), List.eraseDupsBy_cons,
        List.filter_filter, List.append_assoc, List.singleton_append]
      congr 5
      funext b
      have comm : r b a = r a b := Bool.eq_iff_iff.mpr ⟨symm, symm⟩
      rw [comm, List.any_append]
      cases acc.any (r · b) <;> cases hab : r a b <;> simp [hab]

/-- To be equal or to have a key in common is an equivalence, where an item has one key at most. -/
theorem equivalence_eq_or_key {κ : Type*} {R : α → κ → Prop}
    (unique : ∀ {a k k'}, R a k → R a k' → k = k') :
    Equivalence fun a b => a = b ∨ ∃ k, R a k ∧ R b k := by
  refine ⟨fun a => Or.inl rfl, ?_, ?_⟩
  · intro a b h
    rcases h with he | ⟨k, ha, hb⟩
    · exact Or.inl he.symm
    · exact Or.inr ⟨k, hb, ha⟩
  · intro a b c h h'
    rcases h with he | ⟨k, ha, hb⟩
    · rw [he]
      exact h'
    rcases h' with he | ⟨k', hb', hc⟩
    · exact Or.inr ⟨k, ha, he ▸ hb⟩
    · have hkey : k' = k := unique hb' hb
      exact Or.inr ⟨k, ha, hkey ▸ hc⟩

end AdbControl.Framework.Classes
