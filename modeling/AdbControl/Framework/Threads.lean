import Mathlib

namespace AdbControl.Framework

variable {α : Type*} {l : List α} {k : Nat} {a b : α}

/-- Where the threads are, once thread `k` has moved to `b`. -/
theorem getElem?_moved {j : Nat} {c : α} (h : (l.set k b)[j]? = some c) :
    j = k ∧ c = b ∨ j ≠ k ∧ l[j]? = some c := by
  rw [List.getElem?_set] at h
  split_ifs at h with hkj
  · exact Or.inl ⟨hkj.symm, (Option.some.inj h).symm⟩
  · exact Or.inr ⟨Ne.symm hkj, h⟩

/-- The same, place by place. -/
theorem getElem?_set_of_moves (h : l[k]? = some a) (b : α) (j : Nat) :
    (l.set k b)[j]? = if k = j then some b else l[j]? := by
  obtain ⟨hk, -⟩ := List.getElem?_eq_some_iff.mp h
  by_cases hkj : k = j
  · subst hkj
    rw [if_pos rfl, List.getElem?_set_self hk]
  · rw [if_neg hkj, List.getElem?_set_ne hkj]

theorem getElem?_mover (h : l[k]? = some a) (b : α) : (l.set k b)[k]? = some b := by
  obtain ⟨hk, -⟩ := List.getElem?_eq_some_iff.mp h
  exact List.getElem?_set_self hk

/-- How many threads are at a place, when one moves. -/
theorem countP_moved (p : α → Bool) (h : l[k]? = some a) (b : α) :
    (l.set k b).countP p + (if p a then 1 else 0) = l.countP p + (if p b then 1 else 0) := by
  obtain ⟨hk, rfl⟩ := List.getElem?_eq_some_iff.mp h
  have hle : (if p l[k] = true then 1 else 0) ≤ l.countP p := List.boole_getElem_le_countP hk
  rw [List.countP_set hk]
  omega

/-- Two threads at a place are two. -/
theorem two_le_countP {p : α → Bool} {j : Nat} (hjk : j ≠ k) (hj : l[j]? = some a)
    (hk : l[k]? = some b) (ha : p a = true) (hb : p b = true) : 2 ≤ l.countP p := by
  induction l generalizing j k with
  | nil => simp at hj
  | cons c l ih =>
    have one {i : Nat} {d : α} (hi : l[i]? = some d) (hd : p d = true) : 0 < l.countP p :=
      List.countP_pos_iff.mpr ⟨d, List.mem_of_getElem? hi, hd⟩
    rw [List.countP_cons]
    cases j with
    | zero =>
      cases k with
      | zero => exact (hjk rfl).elim
      | succ k =>
        rw [List.getElem?_cons_zero] at hj
        cases hj
        have later := one (by simpa using hk) hb
        rw [if_pos ha]
        omega
    | succ j =>
      cases k with
      | zero =>
        rw [List.getElem?_cons_zero] at hk
        cases hk
        have later := one (by simpa using hj) ha
        rw [if_pos hb]
        omega
      | succ k =>
        have both := ih (fun h => hjk (congrArg (· + 1) h)) (by simpa using hj) (by simpa using hk)
        omega

end AdbControl.Framework
