import Mathlib

namespace AdbControl.Framework

variable {α β ε : Type*}

/-- What is complete of a stream of lines that end in `a`. -/
def completeLines [BEq α] (a : α) (stream : List α) : List (List α) := (stream.splitOn a).dropLast

/-- A stream that comes in chunks, with a mark where each of them ends. -/
def marked (chunks : List (List α)) : List (Option α) :=
  chunks.flatMap fun chunk => chunk.map some ++ [none]

/-- The offsets of the marks, in what begins at offset `n`. -/
def cutsFrom : Nat → List (Option α) → List Nat
  | _, [] => []
  | n, none :: marks => n :: cutsFrom n marks
  | n, some _ :: marks => cutsFrom (n + 1) marks

@[simp] theorem marked_nil : marked ([] : List (List α)) = [] := rfl

@[simp] theorem marked_cons (chunk : List α) (chunks : List (List α)) :
    marked (chunk :: chunks) = chunk.map some ++ none :: marked chunks := by
  simp [marked]

theorem reduceOption_map_some (chunk : List α) (marks : List (Option α)) :
    (chunk.map some ++ marks).reduceOption = chunk ++ marks.reduceOption := by
  induction chunk with
  | nil => rfl
  | cons b chunk ih => rw [List.map_cons, List.cons_append, List.reduceOption_cons_of_some, ih,
      List.cons_append]

/-- Without the marks it is the stream. -/
theorem reduceOption_marked (chunks : List (List α)) :
    (marked chunks).reduceOption = chunks.flatten := by
  induction chunks with
  | nil => rfl
  | cons chunk chunks ih =>
    rw [marked_cons, reduceOption_map_some, List.reduceOption_cons_of_none, ih, List.flatten_cons]

section Lines

theorem exists_splitOn [BEq α] (a : α) (l : List α) :
    ∃ first rest, l.splitOn a = first :: rest := by
  rw [List.splitOn_eq_splitOnP]
  exact List.exists_cons_of_ne_nil (List.splitOnP_ne_nil _ l)

variable [BEq α] [LawfulBEq α] (a : α)

theorem splitOn_cons_self (l : List α) : (a :: l).splitOn a = [] :: l.splitOn a := by
  rw [List.splitOn_eq_splitOnP, List.splitOn_eq_splitOnP, List.splitOnP_cons_eq_if_modifyHead]
  simp

variable {a}

theorem splitOn_cons_ne {b : α} (h : b ≠ a) (l : List α) :
    (b :: l).splitOn a = (l.splitOn a).modifyHead (b :: ·) := by
  rw [List.splitOn_eq_splitOnP, List.splitOn_eq_splitOnP, List.splitOnP_cons_eq_if_modifyHead]
  simp [h]

/-- The first line is complete, where its end has come. -/
theorem completeLines_cons {line : List α} (h : a ∉ line) (rest : List α) :
    completeLines a (line ++ a :: rest) = line :: completeLines a rest := by
  obtain ⟨first, more, hsplit⟩ := exists_splitOn a rest
  have whole : (line ++ a :: rest).splitOn a = line :: rest.splitOn a := by
    clear hsplit
    induction line with
    | nil => exact splitOn_cons_self a rest
    | cons b line ih =>
      rw [List.mem_cons, not_or] at h
      rw [List.cons_append, splitOn_cons_ne (Ne.symm h.1), ih h.2]
      rfl
  rw [completeLines, whole, hsplit, completeLines, hsplit]
  rfl

/-- Lines are the same with marks and without. -/
theorem splitOn_reduceOption (marks : List (Option α)) :
    (marks.splitOn (some a)).map List.reduceOption = marks.reduceOption.splitOn a := by
  induction marks with
  | nil => simp
  | cons m marks ih =>
    obtain ⟨first, rest, hsplit⟩ := exists_splitOn (some a) marks
    cases m with
    | none =>
      rw [splitOn_cons_ne (Option.some_ne_none a).symm, List.reduceOption_cons_of_none, ← ih, hsplit]
      rfl
    | some b =>
      rw [List.reduceOption_cons_of_some]
      by_cases hb : b = a
      · subst hb
        rw [splitOn_cons_self, splitOn_cons_self, List.map_cons, ih]
        rfl
      · rw [splitOn_cons_ne hb, splitOn_cons_ne (fun h => hb (Option.some.inj h)), ← ih, hsplit]
        simp [List.reduceOption_cons_of_some]

end Lines

section Accumulate

variable [BEq α] (a : α) (hold : β → α → β) (out : β → List ε) (reset : β)

/-- What a machine emits that collects a line item by item, and at its end emits what it makes of it
and starts afresh. -/
def accumulate : β → List α → List ε
  | _, [] => []
  | held, b :: items =>
    if b == a then out held ++ accumulate reset items else accumulate (hold held b) items

variable [LawfulBEq α] {a hold out reset}

theorem accumulate_from (held : β) (items : List α) {first : List α} {rest : List (List α)}
    (hsplit : items.splitOn a = first :: rest) :
    accumulate a hold out reset held items =
      ((out (first.foldl hold held)) :: rest.map fun line => out (line.foldl hold reset)).dropLast.flatten := by
  induction items generalizing held first rest with
  | nil =>
    rw [List.splitOn_nil] at hsplit
    cases hsplit
    rfl
  | cons b items ih =>
    obtain ⟨first', rest', hsplit'⟩ := exists_splitOn a items
    by_cases hb : b = a
    · subst hb
      rw [splitOn_cons_self, hsplit'] at hsplit
      cases hsplit
      rw [accumulate, if_pos (beq_self_eq_true b), ih reset hsplit']
      rfl
    · rw [splitOn_cons_ne hb, hsplit'] at hsplit
      cases hsplit
      rw [accumulate, if_neg (by simpa using hb), ih _ hsplit']
      rfl

/-- It emits, for each complete line, what it makes of this line alone. -/
theorem accumulate_lines (items : List α) :
    accumulate a hold out reset reset items =
      (completeLines a items).flatMap fun line => out (line.foldl hold reset) := by
  obtain ⟨first, rest, hsplit⟩ := exists_splitOn a items
  rw [accumulate_from reset items hsplit, completeLines, hsplit, List.flatMap, List.map_dropLast,
    List.map_cons]

end Accumulate

/-- Two maps one of which yields the other's items or none yield the same list only if they agree on
each element. -/
theorem flatMap_eq_iff {f g : α → List ε} {l : List α} (h : ∀ x ∈ l, f x = g x ∨ g x = []) :
    l.flatMap f = l.flatMap g ↔ ∀ x ∈ l, f x = g x := by
  have shorter (l : List α) (h : ∀ x ∈ l, f x = g x ∨ g x = []) :
      (l.flatMap g).length ≤ (l.flatMap f).length := by
    induction l with
    | nil => exact le_refl _
    | cons x l ih =>
      have hrest := ih fun y hy => h y (List.mem_cons_of_mem x hy)
      rw [List.flatMap_cons, List.flatMap_cons, List.length_append, List.length_append]
      rcases h x List.mem_cons_self with hx | hx
      · rw [hx]
        omega
      · rw [hx, List.length_nil]
        omega
  constructor
  · intro heq
    induction l with
    | nil => simp
    | cons x l ih =>
      have htail : ∀ y ∈ l, f y = g y ∨ g y = [] := fun y hy => h y (List.mem_cons_of_mem x hy)
      rw [List.flatMap_cons, List.flatMap_cons] at heq
      have hx : f x = g x := by
        rcases h x List.mem_cons_self with hx | hx
        · exact hx
        · have hlen := congrArg List.length heq
          have hrest := shorter l htail
          rw [List.length_append, List.length_append, hx, List.length_nil] at hlen
          rw [hx]
          exact List.eq_nil_of_length_eq_zero (by omega)
      rw [hx] at heq
      rw [List.forall_mem_cons]
      exact ⟨hx, ih htail (List.append_cancel_left heq)⟩
  · intro hall
    exact List.flatMap_congr hall

end AdbControl.Framework
