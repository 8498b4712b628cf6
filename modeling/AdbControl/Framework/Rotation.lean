import Mathlib

namespace AdbControl.Framework

section Rotation

variable {α : Type*} {k : Nat} {olds full : List (List α)} {slots : Nat → List α}

/-- A ring of `k` slots that are written in turn, a slot beginning anew when its turn comes again.
`olds` is what the slots `1`, `2`, … held at first and `full` what has been finished since, oldest
first: the slots that are not being written hold the latest `k - 1` of both. -/
structure InTurn (k : Nat) (olds : List (List α)) (slots : Nat → List α) (full : List (List α)) :
    Prop where
  size : olds.length + 1 = k
  holds : ∀ i, 0 < i → i < k →
    (olds ++ full)[full.length + i - 1]? = some (slots ((full.length + i) % k))

/-- What the slots hold that are not being written, oldest first -/
def resting (k : Nat) (slots : Nat → List α) (turn : Nat) : List α :=
  (List.range (k - 1)).flatMap fun i => slots ((turn + 1 + i) % k)

theorem inTurn_start (k : Nat) (slots : Nat → List α) (hk : 0 < k) :
    InTurn k ((List.range (k - 1)).map fun i => slots (i + 1)) slots [] := by
  constructor
  · rw [List.length_map, List.length_range]
    omega
  · intro i h0 hi
    obtain ⟨i, rfl⟩ := Nat.exists_eq_succ_of_ne_zero (Nat.ne_of_gt h0)
    have hlt : i < k - 1 := by omega
    simp [List.getElem?_range hlt, Nat.mod_eq_of_lt hi]

/-- Another slot than the one being written -/
theorem slot_ne {n i : Nat} (h0 : 0 < i) (hi : i < k) : (n + i) % k ≠ n % k := by
  intro h
  have hmod : i % k = 0 % k := Nat.ModEq.add_left_cancel' n (by simpa [Nat.ModEq] using h)
  rw [Nat.mod_eq_of_lt hi, Nat.zero_mod] at hmod
  omega

theorem InTurn.write (h : InTurn k olds slots full) (text : List α) :
    InTurn k olds (Function.update slots (full.length % k) text) full := by
  refine ⟨h.size, ?_⟩
  intro i h0 hi
  rw [Function.update_of_ne (slot_ne h0 hi)]
  exact h.holds i h0 hi

theorem InTurn.turn (h : InTurn k olds slots full) :
    InTurn k olds slots (full ++ [slots (full.length % k)]) := by
  have hsize := h.size
  refine ⟨hsize, ?_⟩
  intro i h0 hi
  rw [← List.append_assoc, List.length_append, List.length_singleton]
  by_cases hlast : i + 1 = k
  · rw [List.getElem?_append_right (by rw [List.length_append]; omega), List.length_append,
      show full.length + 1 + i - 1 - (olds.length + full.length) = 0 by omega,
      show full.length + 1 + i = full.length + k by omega, Nat.add_mod_right]
    rfl
  · rw [List.getElem?_append_left (by rw [List.length_append]; omega)]
    have hnext := h.holds (i + 1) (Nat.succ_pos i) (by omega)
    rwa [show full.length + (i + 1) = full.length + 1 + i by omega] at hnext

theorem InTurn.resting_eq (h : InTurn k olds slots full) :
    resting k slots full.length = ((olds ++ full).drop full.length).flatten := by
  have hsize := h.size
  rw [resting, List.flatMap_def]
  congr 1
  apply List.ext_getElem?
  intro i
  rw [List.getElem?_drop, List.getElem?_map]
  by_cases hi : i < k - 1
  · have hslot := h.holds (i + 1) (Nat.succ_pos i) (by omega)
    rw [List.getElem?_range hi, Option.map_some,
      show full.length + i = full.length + (i + 1) - 1 by omega, hslot,
      show full.length + 1 + i = full.length + (i + 1) by omega]
  · rw [List.getElem?_eq_none (by rw [List.length_range]; omega), Option.map_none,
      List.getElem?_eq_none (by rw [List.length_append]; omega)]

theorem InTurn.resting_suffix (h : InTurn k olds slots full) :
    resting k slots full.length <:+ olds.flatten ++ full.flatten := by
  rw [h.resting_eq, ← List.flatten_append]
  exact ⟨((olds ++ full).take full.length).flatten, by rw [← List.flatten_append, List.take_append_drop]⟩

/-- Nothing is lost before the first slot begins anew. -/
theorem InTurn.full_suffix (h : InTurn k olds slots full) (hfew : full.length < k) :
    full.flatten <:+ resting k slots full.length := by
  have hsize := h.size
  rw [h.resting_eq, List.drop_append_of_le_length (by omega), List.flatten_append]
  exact List.suffix_append _ _

theorem length_flatten_ge {m : Nat} {parts : List (List α)} (h : ∀ part ∈ parts, m ≤ part.length) :
    parts.length * m ≤ parts.flatten.length := by
  induction parts with
  | nil => simp
  | cons part parts ih =>
    have hhead := h part List.mem_cons_self
    have htail := ih fun p hp => h p (List.mem_cons_of_mem part hp)
    rw [List.length_cons, Nat.add_mul, Nat.one_mul, List.flatten_cons, List.length_append]
    omega

/-- Once a slot has begun anew, the others hold as much as `k - 1` full ones. -/
theorem InTurn.le_length_resting (h : InTurn k olds slots full) (hmany : k ≤ full.length + 1)
    {m : Nat} (hfull : ∀ part ∈ full, m ≤ part.length) :
    (k - 1) * m ≤ (resting k slots full.length).length := by
  have hsize := h.size
  have hlater : (olds ++ full).drop full.length = full.drop (full.length - olds.length) := by
    rw [List.drop_append, List.drop_eq_nil_of_le (by omega), List.nil_append]
  rw [h.resting_eq, hlater]
  have hcount : (full.drop (full.length - olds.length)).length = k - 1 := by
    rw [List.length_drop]
    omega
  rw [← hcount]
  exact length_flatten_ge fun part hpart => hfull part (List.mem_of_mem_drop hpart)

end Rotation

end AdbControl.Framework
