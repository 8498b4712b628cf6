import Mathlib

namespace AdbControl.Framework

/-- The characters that a quotation is made of -/
def IsMark (c : Char) : Prop := c = '"' ∨ c = '\\'

/-- A way to write a text between quotation marks: each mark in it is written with marks only. -/
structure Quoting where
  escape : Char → List Char
  escape_ne_nil : ∀ c, escape c ≠ []
  escape_mark : ∀ c, IsMark c → ∀ d ∈ escape c, IsMark d

/-- What stands in the shorter front of two equal texts stands in the longer one. -/
theorem mem_of_append_cons_eq {α : Type*} {front back more rest : List α} {a : α}
    (h : front ++ a :: rest = back ++ more) (hlength : front.length < back.length) : a ∈ back := by
  have hget := congrArg (fun l => l[front.length]?) h
  simp only [List.getElem?_append_right le_rfl, Nat.sub_self, List.getElem?_cons_zero,
    List.getElem?_append_left hlength] at hget
  exact List.mem_of_getElem? hget.symm

/-- Two texts of plain characters that end at the same place are the same. -/
theorem plain_append_inj {α : Type*} {Plain : α → Prop} {left right x y : List α} {a b : α}
    (hleft : ∀ c ∈ left, Plain c) (hright : ∀ c ∈ right, Plain c) (ha : ¬Plain a) (hb : ¬Plain b)
    (h : left ++ a :: x = right ++ b :: y) : left = right ∧ a :: x = b :: y := by
  induction left generalizing right with
  | nil =>
    cases right with
    | nil => exact ⟨rfl, h⟩
    | cons c right =>
      obtain ⟨rfl, -⟩ := List.cons.inj h
      exact (ha (hright a List.mem_cons_self)).elim
  | cons c left ih =>
    cases right with
    | nil =>
      obtain ⟨rfl, -⟩ := List.cons.inj h
      exact (hb (hleft c List.mem_cons_self)).elim
    | cons d right =>
      obtain ⟨rfl, hrest⟩ := List.cons.inj h
      obtain ⟨rfl, hsame⟩ := ih (List.forall_mem_cons.mp hleft).2 (List.forall_mem_cons.mp hright).2
        hrest
      exact ⟨rfl, hsame⟩

theorem intercalate_cons {α : Type*} (separator first : List α) (others : List (List α)) :
    ∃ more, separator.intercalate (first :: others) = first ++ more := by
  cases others with
  | nil => exact ⟨[], by simp⟩
  | cons next others => exact ⟨_, by rw [List.intercalate_cons_cons, List.append_assoc]⟩

namespace Quoting

variable (q : Quoting)

def quote (s : List Char) : List Char := '"' :: s.flatMap q.escape ++ ['"']

theorem length_le_escape (s : List Char) : s.length ≤ (s.flatMap q.escape).length := by
  induction s with
  | nil => exact Nat.zero_le _
  | cons c s ih =>
    have hone := List.length_pos_of_ne_nil (q.escape_ne_nil c)
    rw [List.flatMap_cons, List.length_append, List.length_cons]
    omega

/-- A text that begins as its own quotation does is made of marks. -/
theorem isMark_of_prefix {s rest : List Char} (h : s <+: '"' :: s.flatMap q.escape ++ rest) :
    ∀ c ∈ s, IsMark c := by
  induction s using List.reverseRecOn generalizing rest with
  | nil => exact fun _ => nofun
  | append_singleton s a ih =>
    obtain ⟨more, hmore⟩ := h
    rw [List.append_assoc, List.singleton_append, List.flatMap_append, ← List.cons_append,
      List.append_assoc] at hmore
    have hs := ih ⟨a :: more, hmore⟩
    have ha : a ∈ '"' :: s.flatMap q.escape := by
      refine mem_of_append_cons_eq hmore ?_
      have := q.length_le_escape s
      rw [List.length_cons]
      omega
    intro c hc
    rw [List.mem_append, List.mem_singleton] at hc
    rcases hc with hc | rfl
    · exact hs c hc
    · rcases List.mem_cons.mp ha with rfl | hescape
      · exact Or.inl rfl
      · obtain ⟨d, hd, hmem⟩ := List.mem_flatMap.mp hescape
        exact q.escape_mark d (hs d hd) c hmem

/-- Where a text ends in anything but a mark, its quotation reads differently. -/
theorem quote_apart {s x y : List Char} {c : Char} (hc : ¬IsMark c) :
    s ++ c :: x ≠ q.quote s ++ y := by
  intro h
  rw [quote, List.append_assoc] at h
  have hs := q.isMark_of_prefix ⟨c :: x, h⟩
  have hmem : c ∈ '"' :: s.flatMap q.escape := by
    refine mem_of_append_cons_eq h ?_
    have := q.length_le_escape s
    rw [List.length_cons]
    omega
  rcases List.mem_cons.mp hmem with rfl | hescape
  · exact hc (Or.inl rfl)
  · obtain ⟨d, hd, hmem⟩ := List.mem_flatMap.mp hescape
    exact hc (q.escape_mark d (hs d hd) c hmem)

end Quoting

end AdbControl.Framework
