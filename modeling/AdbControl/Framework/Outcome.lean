import Mathlib

namespace AdbControl.Framework

universe u v

variable {ε : Type u} {α β : Type v}

/-- A sequence of fallible steps succeeds exactly when each of them does. -/
theorem bind_eq_ok {x : Except ε α} {f : α → Except ε β} {b : β} :
    (x >>= f) = .ok b ↔ ∃ a, x = .ok a ∧ f a = .ok b := by
  cases x with
  | error e => simp [bind, Except.bind]
  | ok a => simp [bind, Except.bind]

theorem map_eq_ok {x : Except ε α} {f : α → β} {b : β} :
    x.map f = .ok b ↔ ∃ a, x = .ok a ∧ f a = b := by
  cases x with
  | error e => simp [Except.map]
  | ok a => simp [Except.map]

/-- A guard in front of a computation: it succeeds when the guard does not fire. -/
theorem guard_eq_ok {c : Prop} [Decidable c] {e : ε} {x : Except ε α} {a : α} :
    (if c then (throw e : Except ε α) else x) = .ok a ↔ ¬c ∧ x = .ok a := by
  by_cases h : c <;> simp [h, throw, throwThe, MonadExceptOf.throw]

/-- A list is decoded exactly when each of its items is. -/
theorem mapM_eq_ok {f : α → Except ε β} {xs : List α} {ys : List β} :
    xs.mapM f = .ok ys ↔ List.Forall₂ (fun x y => f x = .ok y) xs ys := by
  induction xs generalizing ys with
  | nil =>
    rw [List.mapM_nil, List.forall₂_nil_left_iff]
    constructor
    · intro h
      cases h
      rfl
    · intro h
      rw [h]
      rfl
  | cons x xs ih =>
    rw [List.mapM_cons, bind_eq_ok, List.forall₂_cons_left_iff]
    constructor
    · intro h
      obtain ⟨y, hy, hrest⟩ := h
      obtain ⟨ys', hys', hcons⟩ := bind_eq_ok.mp hrest
      cases hcons
      exact ⟨y, ys', hy, ih.mp hys', rfl⟩
    · intro h
      obtain ⟨y, ys', hy, hys', hcons⟩ := h
      exact ⟨y, hy, bind_eq_ok.mpr ⟨ys', ih.mpr hys', by rw [hcons]; rfl⟩⟩

theorem mapM_isOk_iff {f : α → Except ε β} {xs : List α} :
    (∃ ys, xs.mapM f = .ok ys) ↔ ∀ x ∈ xs, ∃ y, f x = .ok y := by
  induction xs with
  | nil => simp [pure, Except.pure]
  | cons x xs ih =>
    rw [List.forall_mem_cons, ← ih]
    constructor
    · intro h
      obtain ⟨ys, hys⟩ := h
      obtain ⟨y, ys', hy, hrest, -⟩ := List.forall₂_cons_left_iff.mp (mapM_eq_ok.mp hys)
      exact ⟨⟨y, hy⟩, ys', mapM_eq_ok.mpr hrest⟩
    · intro h
      obtain ⟨⟨y, hy⟩, ys, hys⟩ := h
      exact ⟨y :: ys, mapM_eq_ok.mpr (List.Forall₂.cons hy (mapM_eq_ok.mp hys))⟩

/-- A list passes exactly when each of its items does. -/
theorem forM_eq_ok {ε α : Type} {f : α → Except ε Unit} {xs : List α} :
    xs.forM f = .ok () ↔ ∀ x ∈ xs, f x = .ok () := by
  induction xs with
  | nil => simp [pure, Except.pure]
  | cons x xs ih =>
    show (f x >>= fun _ => xs.forM f) = .ok () ↔ _
    rw [bind_eq_ok, List.forall_mem_cons, ih]
    constructor
    · intro h
      obtain ⟨u, hx, hrest⟩ := h
      exact ⟨hx, hrest⟩
    · intro h
      exact ⟨(), h.1, h.2⟩

theorem mapM_eq_some {f : α → Option β} {xs : List α} {ys : List β} :
    xs.mapM f = some ys ↔ List.Forall₂ (fun x y => f x = some y) xs ys := by
  induction xs generalizing ys with
  | nil =>
    rw [List.mapM_nil, List.forall₂_nil_left_iff]
    exact ⟨fun h => (Option.some.inj h).symm, fun h => by rw [h]; rfl⟩
  | cons x xs ih =>
    rw [List.mapM_cons, Option.bind_eq_bind, Option.bind_eq_some_iff, List.forall₂_cons_left_iff]
    constructor
    · intro h
      obtain ⟨y, hy, hrest⟩ := h
      obtain ⟨ys', hys', hcons⟩ := Option.bind_eq_some_iff.mp hrest
      cases hcons
      exact ⟨y, ys', hy, ih.mp hys', rfl⟩
    · intro h
      obtain ⟨y, ys', hy, hys', hcons⟩ := h
      exact ⟨y, hy, Option.bind_eq_some_iff.mpr ⟨ys', ih.mpr hys', by rw [hcons]; rfl⟩⟩

end AdbControl.Framework
