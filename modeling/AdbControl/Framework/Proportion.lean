import Mathlib

namespace AdbControl.Framework

/-- Where a pixel of one extent is on another one: the first stays the first, the last the last, and
what is between them keeps its proportion, rounded down. -/
def proportional (source target value : ℤ) : ℤ := ⌊(value * (target - 1) : ℚ) / (source - 1)⌋

section

variable {source target value : ℤ}

theorem proportional_eq_div (hsource : 1 ≤ source) :
    proportional source target value = value * (target - 1) / (source - 1) := by
  obtain ⟨n, hn⟩ := Int.eq_ofNat_of_zero_le (show 0 ≤ source - 1 by omega)
  have hcast : (source : ℚ) - 1 = (n : ℚ) := by
    have := congrArg (fun z : ℤ => (z : ℚ)) hn
    push_cast at this
    exact this
  rw [proportional, hcast, hn, ← Rat.floor_intCast_div_natCast]
  push_cast
  rfl

theorem proportional_zero : proportional source target 0 = 0 := by simp [proportional]

theorem proportional_last (hsource : 1 < source) :
    proportional source target (source - 1) = target - 1 := by
  rw [proportional_eq_div hsource.le, Int.mul_ediv_cancel_left _ (by omega)]

theorem proportional_monotone (hsource : 1 ≤ source) (htarget : 1 ≤ target) :
    Monotone (proportional source target) := by
  intro value value' hle
  have hproduct : value * (target - 1) ≤ value' * (target - 1) :=
    mul_le_mul_of_nonneg_right hle (by omega)
  rw [proportional_eq_div hsource, proportional_eq_div hsource]
  rcases hsource.eq_or_lt with rfl | hwide
  · simp
  · exact Int.ediv_le_ediv (by omega) hproduct

theorem proportional_nonneg (hsource : 1 ≤ source) (htarget : 1 ≤ target) (hvalue : 0 ≤ value) :
    0 ≤ proportional source target value := by
  have hzero := proportional_monotone hsource htarget hvalue
  rw [proportional_zero] at hzero
  exact hzero

theorem proportional_lt (hsource : 1 ≤ source) (htarget : 1 ≤ target) (hvalue : value < source) :
    proportional source target value < target := by
  by_cases hone : source = 1
  · rw [proportional_eq_div hsource, hone]
    simp
    omega
  · have hlast := proportional_monotone hsource htarget (show value ≤ source - 1 by omega)
    rw [proportional_last (by omega)] at hlast
    omega

end

end AdbControl.Framework
