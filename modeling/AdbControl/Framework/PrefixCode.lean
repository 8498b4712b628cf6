import Mathlib

namespace AdbControl.Framework

variable {α β : Type*} {f : α → List β}

/-- Texts that tell where they end: one of them, whatever follows it, is no other. -/
structure PrefixCode (f : α → List β) : Prop where
  nonempty : ∀ a, f a ≠ []
  parts : ∀ a b xs ys, f a ++ xs = f b ++ ys → a = b ∧ xs = ys

theorem PrefixCode.injective (hf : PrefixCode f) {as bs : List α} (h : as.flatMap f = bs.flatMap f) :
    as = bs := by
  induction as generalizing bs with
  | nil =>
    cases bs with
    | nil => rfl
    | cons b bs => exact absurd (List.append_eq_nil_iff.mp h.symm).1 (hf.nonempty b)
  | cons a as ih =>
    cases bs with
    | nil => exact absurd (List.append_eq_nil_iff.mp h).1 (hf.nonempty a)
    | cons b bs =>
      obtain ⟨rfl, hrest⟩ := hf.parts a b _ _ h
      rw [ih hrest]

end AdbControl.Framework
