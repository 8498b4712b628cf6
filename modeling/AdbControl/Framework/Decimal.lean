import Mathlib

namespace AdbControl.Framework

/-- The lowest `w` decimal digits of a number, as text. -/
def decimal : Nat → Nat → List Char
  | 0, _ => []
  | w + 1, n => (n / 10^w % 10).digitChar :: decimal w n

/-- The digits without the zeros that they end with -/
def trimZeros (digits : List Char) : List Char := digits.rdropWhile (fun c => c == '0')

section Lexicographic

variable {α : Type*}

theorem append_lt_append_iff [LT α] [Std.Irrefl (α := α) (· < ·)] {xs ys : List α}
    (h : xs.length = ys.length) (xs' ys' : List α) :
    xs ++ xs' < ys ++ ys' ↔ xs < ys ∨ xs = ys ∧ xs' < ys' := by
  induction xs generalizing ys with
  | nil =>
    rw [List.length_nil, eq_comm, List.length_eq_zero_iff] at h
    simp [h]
  | cons x xs ih =>
    cases ys with
    | nil => cases h
    | cons y ys =>
      have hlength : xs.length = ys.length := Nat.succ.inj h
      rw [List.cons_append, List.cons_append, List.cons_lt_cons_iff, List.cons_lt_cons_iff,
        ih hlength, List.cons.injEq]
      tauto

/-- Of two lists one begins with the other, or they part somewhere. -/
theorem prefix_or_part (xs ys : List α) :
    xs <+: ys ∨ ys <+: xs ∨
      ∃ common x y xs' ys', x ≠ y ∧ xs = common ++ x :: xs' ∧ ys = common ++ y :: ys' := by
  induction xs generalizing ys with
  | nil => exact Or.inl (List.nil_prefix)
  | cons x xs ih =>
    cases ys with
    | nil => exact Or.inr (Or.inl List.nil_prefix)
    | cons y ys =>
      by_cases hxy : x = y
      · subst hxy
        rcases ih ys with hbegins | hbegins | ⟨common, a, b, xs', ys', hne, hxs, hys⟩
        · exact Or.inl ((List.prefix_cons_inj x).mpr hbegins)
        · exact Or.inr (Or.inl ((List.prefix_cons_inj x).mpr hbegins))
        · exact Or.inr (Or.inr ⟨x :: common, a, b, xs', ys', hne, by rw [hxs]; rfl, by rw [hys]; rfl⟩)
      · exact Or.inr (Or.inr ⟨[], x, y, xs, ys, hxy, rfl, rfl⟩)

theorem part_lt_iff [LT α] [Std.Irrefl (α := α) (· < ·)] {x y : α} (hne : x ≠ y)
    (common xs ys : List α) : common ++ x :: xs < common ++ y :: ys ↔ x < y := by
  rw [append_lt_append_iff rfl, List.cons_lt_cons_iff]
  simp [hne, List.lt_irrefl]

end Lexicographic

section Digits

variable {w a b : Nat}

@[simp] theorem decimal_length (w n : Nat) : (decimal w n).length = w := by
  induction w with
  | zero => rfl
  | succ w ih => rw [decimal, List.length_cons, ih]

theorem digitChar_lt_iff (ha : a < 10) (hb : b < 10) : a.digitChar < b.digitChar ↔ a < b := by
  have all : ∀ a < 10, ∀ b < 10, (a.digitChar < b.digitChar ↔ a < b) := by decide
  exact all a ha b hb

theorem digitChar_inj (ha : a < 10) (hb : b < 10) : a.digitChar = b.digitChar ↔ a = b := by
  have all : ∀ a < 10, ∀ b < 10, (a.digitChar = b.digitChar ↔ a = b) := by decide
  exact all a ha b hb

/-- Only so many digits of the number are seen. -/
theorem decimal_congr (h : a % 10^w = b % 10^w) : decimal w a = decimal w b := by
  induction w with
  | zero => rfl
  | succ w ih =>
    rw [pow_succ, Nat.mod_mul, Nat.mod_mul] at h
    have hpos : 0 < 10^w := Nat.pow_pos (by omega)
    have hlow : a % 10^w = b % 10^w := by
      have hmod := congrArg (· % 10^w) h
      simpa [Nat.add_mul_mod_self_left] using hmod
    have hhigh : a / 10^w % 10 = b / 10^w % 10 := by
      rw [hlow] at h
      exact Nat.eq_of_mul_eq_mul_left hpos (Nat.add_left_cancel h)
    rw [decimal, decimal, hhigh, ih hlow]

theorem decimal_mod (w n : Nat) : decimal w (n % 10^w) = decimal w n :=
  decimal_congr (Nat.mod_mod _ _)

/-- Texts of one length are in the order of the numbers. -/
theorem decimal_lt_iff (ha : a < 10^w) (hb : b < 10^w) : decimal w a < decimal w b ↔ a < b := by
  induction w generalizing a b with
  | zero =>
    rw [pow_zero] at ha hb
    simp only [decimal, List.not_lt_nil, false_iff]
    omega
  | succ w ih =>
    have hpos : 0 < 10^w := Nat.pow_pos (by omega)
    have highA : a / 10^w < 10 := Nat.div_lt_of_lt_mul (by rwa [← pow_succ])
    have highB : b / 10^w < 10 := Nat.div_lt_of_lt_mul (by rwa [← pow_succ])
    have lowA := Nat.mod_lt a hpos
    have lowB := Nat.mod_lt b hpos
    have wholeA := Nat.div_add_mod a (10^w)
    have wholeB := Nat.div_add_mod b (10^w)
    rw [decimal, decimal, List.cons_lt_cons_iff, Nat.mod_eq_of_lt highA, Nat.mod_eq_of_lt highB,
      digitChar_lt_iff highA highB, digitChar_inj highA highB, ← decimal_mod w a, ← decimal_mod w b,
      ih lowA lowB]
    rcases Nat.lt_trichotomy (a / 10^w) (b / 10^w) with hlt | heq | hgt
    · exact iff_of_true (Or.inl hlt) (Nat.lt_of_div_lt_div hlt)
    · rw [heq] at wholeA ⊢
      omega
    · have := Nat.lt_of_div_lt_div hgt
      omega

theorem decimal_inj (ha : a < 10^w) (hb : b < 10^w) : decimal w a = decimal w b ↔ a = b := by
  constructor
  · intro h
    rcases Nat.lt_trichotomy a b with hlt | heq | hgt
    · have hcmp := (decimal_lt_iff ha hb).mpr hlt
      rw [h] at hcmp
      exact (List.lt_irrefl _ hcmp).elim
    · exact heq
    · have hcmp := (decimal_lt_iff hb ha).mpr hgt
      rw [h] at hcmp
      exact (List.lt_irrefl _ hcmp).elim
  · intro h
    rw [h]

/-- A field of fixed width, with what comes after it -/
theorem decimal_append_lt_iff (ha : a < 10^w) (hb : b < 10^w) (xs ys : List Char) :
    decimal w a ++ xs < decimal w b ++ ys ↔ a < b ∨ a = b ∧ xs < ys := by
  rw [append_lt_append_iff (by simp), decimal_lt_iff ha hb, decimal_inj ha hb]

theorem decimal_add (v w n : Nat) : decimal (v + w) n = decimal v (n / 10^w) ++ decimal w n := by
  induction v with
  | zero => simp [decimal]
  | succ v ih =>
    rw [Nat.succ_add, decimal, decimal, ih, List.cons_append, Nat.div_div_eq_div_mul, ← pow_add,
      Nat.add_comm w v]

theorem isDigit_decimal {c : Char} {n : Nat} (h : c ∈ decimal w n) :
    ∃ d, d < 10 ∧ c = d.digitChar := by
  induction w with
  | zero => cases h
  | succ w ih =>
    rcases List.mem_cons.mp h with rfl | h
    · exact ⟨_, Nat.mod_lt _ (by omega), rfl⟩
    · exact ih h

end Digits

section Trimmed

variable {w a b : Nat}

theorem decimal_zero (w : Nat) : decimal w 0 = List.replicate w '0' := by
  induction w with
  | zero => rfl
  | succ w ih =>
    rw [decimal, ih, Nat.zero_div]
    rfl

theorem trimZeros_concat (digits : List Char) (c : Char) :
    trimZeros (digits ++ [c]) = if c = '0' then trimZeros digits else digits ++ [c] := by
  rw [trimZeros, List.rdropWhile_concat]
  simp [trimZeros]

theorem trimZeros_append_zeros (digits : List Char) (k : Nat) :
    trimZeros (digits ++ List.replicate k '0') = trimZeros digits := by
  induction k with
  | zero => simp
  | succ k ih => rw [List.replicate_succ', ← List.append_assoc, trimZeros_concat, if_pos rfl, ih]

/-- The zeros that are left out -/
theorem trimZeros_zeros (digits : List Char) :
    ∃ k, digits = trimZeros digits ++ List.replicate k '0' := by
  induction digits using List.reverseRecOn with
  | nil => exact ⟨0, rfl⟩
  | append_singleton digits c ih =>
    rw [trimZeros_concat]
    split_ifs with hc
    · obtain ⟨k, hk⟩ := ih
      refine ⟨k + 1, ?_⟩
      rw [List.replicate_succ', ← List.append_assoc, ← hk, hc]
    · exact ⟨0, by simp⟩

theorem trimZeros_prefix_append (digits more : List Char) :
    trimZeros digits <+: trimZeros (digits ++ more) := by
  induction more using List.reverseRecOn with
  | nil => rw [List.append_nil]
  | append_singleton more c ih =>
    rw [← List.append_assoc, trimZeros_concat]
    split_ifs with hc
    · exact ih
    · rw [List.append_assoc]
      exact (List.rdropWhile_prefix _ digits).trans (List.prefix_append _ _)

/-- The trimmed digits of one number begin those of another exactly when it is the other cut off
after some digit. -/
theorem trimZeros_prefix_iff (ha : a < 10^w) (hb : b < 10^w) :
    trimZeros (decimal w a) <+: trimZeros (decimal w b) ↔ ∃ k ≤ w, a = b / 10^k * 10^k := by
  constructor
  · intro h
    obtain ⟨t, ht⟩ := h
    obtain ⟨k, hk⟩ := trimZeros_zeros (decimal w a)
    obtain ⟨l, hl⟩ := trimZeros_zeros (decimal w b)
    rw [← ht, List.append_assoc] at hl
    generalize trimZeros (decimal w a) = digits at hk hl
    have lengthA := congrArg List.length hk
    have lengthB := congrArg List.length hl
    simp only [decimal_length, List.length_append, List.length_replicate] at lengthA lengthB
    have hpos : 0 < 10^k := Nat.pow_pos (by omega)
    rw [lengthA, decimal_add] at hk hl
    rw [lengthA, pow_add] at ha hb
    obtain ⟨highA, lowA⟩ := List.append_inj hk (by simp)
    obtain ⟨highB, -⟩ := List.append_inj hl (by simp)
    have quotients : a / 10^k = b / 10^k :=
      (decimal_inj (Nat.div_lt_of_lt_mul (by rwa [Nat.mul_comm]))
        (Nat.div_lt_of_lt_mul (by rwa [Nat.mul_comm]))).mp (highA.trans highB.symm)
    have remainder : a % 10^k = 0 := by
      rw [← decimal_zero, ← decimal_mod] at lowA
      exact (decimal_inj (Nat.mod_lt a hpos) hpos).mp lowA
    refine ⟨k, by omega, ?_⟩
    have whole := Nat.div_add_mod a (10^k)
    rw [remainder, Nat.add_zero, quotients, Nat.mul_comm] at whole
    exact whole.symm
  · intro h
    obtain ⟨k, hk, rfl⟩ := h
    have hpos : 0 < 10^k := Nat.pow_pos (by omega)
    have low : decimal k (b / 10^k * 10^k) = List.replicate k '0' := by
      rw [← decimal_zero]
      exact decimal_congr (by simp)
    obtain ⟨v, rfl⟩ := Nat.exists_eq_add_of_le' hk
    rw [decimal_add, decimal_add, Nat.mul_div_cancel _ hpos, low, trimZeros_append_zeros]
    exact trimZeros_prefix_append _ _

/-- With a character behind them that is above all digits, the trimmed digits of two numbers are in
their order unless those of the smaller one begin those of the other. -/
theorem trimZeros_lt_iff (ha : a < 10^w) (hb : b < 10^w) (hab : a < b) {stop : Char}
    (hstop : ∀ d < 10, d.digitChar < stop) :
    trimZeros (decimal w a) ++ [stop] < trimZeros (decimal w b) ++ [stop] ↔
      ¬∃ k ≤ w, a = b / 10^k * 10^k := by
  rw [← trimZeros_prefix_iff ha hb]
  have later : ¬trimZeros (decimal w b) <+: trimZeros (decimal w a) := by
    rw [trimZeros_prefix_iff hb ha]
    intro h
    obtain ⟨k, -, hk⟩ := h
    have := Nat.div_mul_le_self a (10^k)
    omega
  obtain ⟨k, hk⟩ := trimZeros_zeros (decimal w a)
  obtain ⟨l, hl⟩ := trimZeros_zeros (decimal w b)
  have order := (decimal_lt_iff ha hb).mpr hab
  have digitsB : ∀ c ∈ trimZeros (decimal w b), ∃ d, d < 10 ∧ c = d.digitChar := by
    intro c hc
    exact isDigit_decimal ((List.rdropWhile_prefix _ _).mem hc)
  rw [hk, hl] at order
  generalize trimZeros (decimal w a) = x at *
  generalize trimZeros (decimal w b) = y at *
  rcases prefix_or_part x y with hbegins | hbegins | ⟨common, c, d, x', y', hne, hx, hy⟩
  · obtain ⟨more, hmore⟩ := id hbegins
    refine iff_of_false ?_ (not_not.mpr hbegins)
    cases more with
    | nil => exact (later ⟨[], by rw [← hmore]; simp⟩).elim
    | cons c more =>
      obtain ⟨d, hd, hc⟩ := digitsB c (by rw [← hmore]; simp)
      have above := hstop d hd
      rw [← hc] at above
      rw [← hmore, List.append_assoc, append_lt_append_iff rfl, List.cons_append,
        List.cons_lt_cons_iff]
      simp [above.not_gt, above.ne']
  · exact (later hbegins).elim
  · rw [hx, hy, List.append_assoc, List.append_assoc, List.cons_append, List.cons_append,
      part_lt_iff hne] at order
    have apart : ¬x <+: y := by
      rw [hx, hy, List.prefix_append_right_inj]
      intro h
      exact hne (List.cons_prefix_cons.mp h).1
    rw [hx, hy, List.append_assoc, List.append_assoc, List.cons_append, List.cons_append,
      part_lt_iff hne]
    rw [hx, hy] at apart
    exact iff_of_true order apart

end Trimmed

end AdbControl.Framework
