import AdbControl.Framework.Run

namespace AdbControl.Framework

variable {κ ρ α β : Type}

/-- A program that gives commands, each going on from the answer to it. -/
inductive Program (κ ρ α : Type)
  | done (a : α)
  | ask (c : κ) (next : ρ → Program κ ρ α)

namespace Program

def bind : Program κ ρ α → (α → Program κ ρ β) → Program κ ρ β
  | done a, f => f a
  | ask c next, f => ask c fun r => (next r).bind f

instance monad : Monad (Program κ ρ) where
  pure := done
  bind := bind

def give (c : κ) : Program κ ρ ρ := ask c done

/-- The program has given these commands, been answered so, and is still to go on as `q`. -/
inductive Trace (p : Program κ ρ α) : List (κ × ρ) → Program κ ρ α → Prop
  | start : Trace p [] p
  | more {t : List (κ × ρ)} {c : κ} {next : ρ → Program κ ρ α} (before : Trace p t (ask c next))
    (r : ρ) : Trace p (t ++ [(c, r)]) (next r)

/-- After `t`, each command is one that `P` allows after what came before it, and `Q` holds of the
result. -/
def Holds (P : List (κ × ρ) → κ → Prop) (Q : List (κ × ρ) → α → Prop) :
    List (κ × ρ) → Program κ ρ α → Prop
  | t, done a => Q t a
  | t, ask c next => P t c ∧ ∀ r, Holds P Q (t ++ [(c, r)]) (next r)

variable {P : List (κ × ρ) → κ → Prop} {Q : List (κ × ρ) → α → Prop} {R : List (κ × ρ) → β → Prop}
  {t : List (κ × ρ)} {c : κ}

theorem holds_pure {a : α} : Holds P Q t (pure a : Program κ ρ α) ↔ Q t a := Iff.rfl

theorem holds_give {Q : List (κ × ρ) → ρ → Prop} :
    Holds P Q t (give c) ↔ P t c ∧ ∀ r, Q (t ++ [(c, r)]) r := Iff.rfl

theorem holds_bind {p : Program κ ρ α} {f : α → Program κ ρ β} :
    Holds P R t (p >>= f) ↔ Holds P (fun t a => Holds P R t (f a)) t p := by
  induction p generalizing t with
  | done a => exact Iff.rfl
  | ask c next ih => exact and_congr_right fun _ => forall_congr' fun r => ih r

theorem Holds.mono {Q' : List (κ × ρ) → α → Prop} {p : Program κ ρ α} (h : Holds P Q t p)
    (hQ : ∀ t a, Q t a → Q' t a) : Holds P Q' t p := by
  induction p generalizing t with
  | done a => exact hQ t a h
  | ask c next ih => exact ⟨h.1, fun r => ih r (h.2 r)⟩

/-- What holds of a program holds of it all along. -/
theorem Holds.trace {p q : Program κ ρ α} (h : Holds P Q [] p) (htrace : Trace p t q) : Holds P Q t q := by
  induction htrace with
  | start => exact h
  | more before r ih => exact ih.2 r

end Program

end AdbControl.Framework
