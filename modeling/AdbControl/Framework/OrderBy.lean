import Mathlib

namespace AdbControl.Framework

/-- A query that lists rows with the greatest keys first. Which of the rows with one key is the
first is left to it. -/
structure OrderBy {α κ : Type*} [LinearOrder κ] (key : α → κ) where
  list : List α → List α
  perm : ∀ rows, (list rows).Perm rows
  sorted : ∀ rows, (list rows).Pairwise fun a b => key b ≤ key a

/-- What was kept of all rows: so many of those with the greatest keys. -/
structure KeepsGreatest {α κ : Type*} [LE κ] (key : α → κ) (limit : Nat) (kept rows : List α) :
    Prop where
  size : kept.length = min limit rows.length
  greatest : ∃ dropped, (kept ++ dropped).Perm rows ∧
    ∀ a ∈ kept, ∀ b ∈ dropped, key b ≤ key a

section

variable {α κ : Type*} {limit : Nat} {kept kept' rows : List α}

/-- The order in which the rows were kept does not count. -/
theorem KeepsGreatest.perm [LE κ] {key : α → κ} (h : KeepsGreatest key limit kept rows)
    (hperm : kept.Perm kept') : KeepsGreatest key limit kept' rows := by
  obtain ⟨hsize, dropped, hrows, hgreatest⟩ := h
  refine ⟨hperm.length_eq ▸ hsize, dropped, (hperm.symm.append_right dropped).trans hrows, ?_⟩
  intro a ha
  exact hgreatest a (hperm.mem_iff.mpr ha)

theorem KeepsGreatest.perm_rows [LE κ] {key : α → κ} {rows' : List α}
    (h : KeepsGreatest key limit kept rows) (hperm : rows.Perm rows') :
    KeepsGreatest key limit kept rows' := by
  obtain ⟨hsize, dropped, hrows, hgreatest⟩ := h
  exact ⟨hperm.length_eq ▸ hsize, dropped, hrows.trans hperm, hgreatest⟩

theorem KeepsGreatest.subset [LE κ] {key : α → κ} (h : KeepsGreatest key limit kept rows) :
    kept ⊆ rows := by
  obtain ⟨-, dropped, hrows, -⟩ := h
  exact fun a ha => hrows.mem_iff.mp (List.mem_append_left _ ha)

/-- A row that is below all others is not kept where not all are. -/
theorem KeepsGreatest.least_dropped [Preorder κ] {key : α → κ} (h : KeepsGreatest key limit kept rows)
    (distinct : rows.Nodup) (hlimit : limit < rows.length) {a : α}
    (least : ∀ b ∈ rows, b ≠ a → key a < key b) : a ∉ kept := by
  intro ha
  obtain ⟨hsize, dropped, hrows, hgreatest⟩ := h
  have lengths := hrows.length_eq
  rw [List.length_append] at lengths
  obtain ⟨b, hb⟩ := List.exists_mem_of_length_pos (show 0 < dropped.length by omega)
  have apart := (List.nodup_append.mp (hrows.nodup_iff.mpr distinct)).2.2 a ha b hb
  have above := least b (hrows.mem_iff.mp (List.mem_append_right _ hb)) apart.symm
  exact above.not_ge (hgreatest a ha b hb)

/-- What is greatest by one key is so by another that is in the same order on these rows. -/
theorem KeepsGreatest.of_key {μ : Type*} [LE κ] [LE μ] {key : α → κ} {key' : α → μ}
    (h : KeepsGreatest key limit kept rows)
    (order : ∀ a ∈ rows, ∀ b ∈ rows, key b ≤ key a → key' b ≤ key' a) :
    KeepsGreatest key' limit kept rows := by
  obtain ⟨hsize, dropped, hrows, hgreatest⟩ := h
  refine ⟨hsize, dropped, hrows, ?_⟩
  intro a ha b hb
  exact order a (hrows.mem_iff.mp (List.mem_append_left _ ha)) b
    (hrows.mem_iff.mp (List.mem_append_right _ hb)) (hgreatest a ha b hb)

end

namespace OrderBy

variable {α κ : Type*} [LinearOrder κ] {key : α → κ}

/-- The order of a stable sort -/
def stable (key : α → κ) : OrderBy key where
  list rows := rows.mergeSort fun a b => decide (key b ≤ key a)
  perm rows := List.mergeSort_perm rows _
  sorted rows := by
    have h := @List.pairwise_mergeSort α (fun a b => decide (key b ≤ key a))
      (fun a b c hab hbc => by
        simp only [decide_eq_true_eq] at hab hbc ⊢
        exact hbc.trans hab)
      (fun a b => by simpa using le_total (key b) (key a)) rows
    simpa using h

variable (O : OrderBy key)

theorem mem_list {rows : List α} {a : α} : a ∈ O.list rows ↔ a ∈ rows := (O.perm rows).mem_iff

/-- The first rows are those with the greatest keys. -/
theorem take_keeps (limit : Nat) (rows : List α) :
    KeepsGreatest key limit ((O.list rows).take limit) rows := by
  have whole := List.take_append_drop limit (O.list rows)
  refine ⟨by rw [List.length_take, (O.perm rows).length_eq], (O.list rows).drop limit, ?_, ?_⟩
  · rw [whole]
    exact O.perm rows
  · have sorted := O.sorted rows
    rw [← whole, List.pairwise_append] at sorted
    exact sorted.2.2

/-- Of the rows that were kept and one more, so many are kept again that have the greatest keys of
all. -/
theorem take_keeps_cons {limit : Nat} {kept rows : List α} (h : KeepsGreatest key limit kept rows)
    (row : α) : KeepsGreatest key limit ((O.list (row :: kept)).take limit) (row :: rows) := by
  obtain ⟨hsize, dropped, hperm, hgreatest⟩ := h
  obtain ⟨hsize', dropped', hperm', hgreatest'⟩ := O.take_keeps limit (row :: kept)
  have lengths := hperm.length_eq
  rw [List.length_append] at lengths
  refine ⟨?_, dropped' ++ dropped, ?_, ?_⟩
  · rw [hsize', List.length_cons, List.length_cons, hsize]
    omega
  · rw [← List.append_assoc]
    refine (hperm'.append_right dropped).trans ?_
    rw [List.cons_append]
    exact hperm.cons row
  · intro a ha b hb
    rcases List.mem_append.mp hb with hnew | hold
    · exact hgreatest' a ha b hnew
    · -- the one row that gives way to another is not above what is kept
      have hpos := List.length_pos_of_mem hold
      have lengths' := hperm'.length_eq
      rw [List.length_append, List.length_cons] at lengths'
      rw [List.length_cons] at hsize'
      obtain ⟨x, hx⟩ := List.length_eq_one_iff.mp (show dropped'.length = 1 by omega)
      subst hx
      have hmem : x ∈ row :: kept := hperm'.mem_iff.mp (by simp)
      rcases List.mem_cons.mp hmem with hrow | hkept
      · subst hrow
        have same := (List.perm_append_singleton x _).symm.trans hperm'
        exact hgreatest a (same.cons_inv.mem_iff.mp ha) b hold
      · exact (hgreatest x hkept b hold).trans (hgreatest' a ha x (by simp))

end OrderBy

end AdbControl.Framework
