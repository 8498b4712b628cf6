import Mathlib

namespace AdbControl.Framework

variable {ε δ α β : Type}

/-- A computation that sends requests, one after the other, and sees all that were sent before. -/
abbrev Sending (ε α : Type) := StateM (List ε) α

def send (e : ε) : Sending ε Unit := modify (fun sent => sent ++ [e])

/-- All that the computation sends meets `P`, whatever was sent before. -/
def Sends (P : ε → Prop) (m : Sending ε α) : Prop :=
  ∀ sent, ∃ more, (m.run sent).2 = sent ++ more ∧ ∀ e ∈ more, P e

/-- A computation that sends some kinds of requests, as a part of one that sends more of them; it may
depend on all that was sent before. -/
def within (f : ε → δ) (m : List δ → Sending ε α) : Sending δ α := fun sent =>
  (((m sent).run []).1, sent ++ ((m sent).run []).2.map f)

variable {P Q : ε → Prop}

theorem sends_pure (a : α) : Sends P (pure a : Sending ε α) := by
  intro sent
  exact ⟨[], by simp [StateT.run, pure, StateT.pure], nofun⟩

theorem sends_send {e : ε} (h : P e) : Sends P (send e) := by
  intro sent
  refine ⟨[e], rfl, ?_⟩
  intro e' he
  rw [List.mem_singleton.mp he]
  exact h

theorem sends_get : Sends P (get : Sending ε (List ε)) := by
  intro sent
  exact ⟨[], by simp [StateT.run, get, getThe, MonadStateOf.get, StateT.get, pure], nofun⟩

theorem sends_ite {c : Prop} [Decidable c] {m n : Sending ε α} (hm : c → Sends P m)
    (hn : ¬c → Sends P n) : Sends P (if c then m else n) := by
  split_ifs with h
  · exact hm h
  · exact hn h

theorem Sends.mono {m : Sending ε α} (h : Sends P m) (hPQ : ∀ e, P e → Q e) : Sends Q m := by
  intro sent
  obtain ⟨more, hmore, hP⟩ := h sent
  exact ⟨more, hmore, fun e he => hPQ e (hP e he)⟩

theorem sends_within {R : δ → Prop} {f : ε → δ} {m : List δ → Sending ε α}
    (h : ∀ sent, Sends P (m sent)) (hPR : ∀ e, P e → R (f e)) : Sends R (within f m) := by
  intro sent
  obtain ⟨more, hmore, hP⟩ := h sent []
  refine ⟨more.map f, ?_, ?_⟩
  · show sent ++ ((m sent).run []).2.map f = sent ++ more.map f
    rw [hmore, List.nil_append]
  · intro e' he'
    obtain ⟨e, he, rfl⟩ := List.mem_map.mp he'
    exact hPR e (hP e he)

/-- What the computation comes to meets `R`, whatever was sent before. -/
def Gives (R : α → Prop) (m : Sending ε α) : Prop := ∀ sent, R (m.run sent).1

theorem gives_pure {R : α → Prop} {a : α} (h : R a) : Gives R (pure a : Sending ε α) := fun _ => h

theorem gives_bind {R : α → Prop} {S : β → Prop} {m : Sending ε α} {f : α → Sending ε β}
    (hm : Gives R m) (hf : ∀ a, R a → Gives S (f a)) : Gives S (m >>= f) :=
  fun sent => hf (m.run sent).1 (hm sent) (m.run sent).2

theorem gives_any (m : Sending ε α) : Gives (fun _ => True) m := fun _ => trivial

/-- The second computation may count on what the first comes to. -/
theorem sends_bind_of {R : α → Prop} {m : Sending ε α} {f : α → Sending ε β} (hm : Sends P m)
    (hR : Gives R m) (hf : ∀ a, R a → Sends P (f a)) : Sends P (m >>= f) := by
  intro sent
  obtain ⟨first, hfirst, hPfirst⟩ := hm sent
  obtain ⟨second, hsecond, hPsecond⟩ := hf (m.run sent).1 (hR sent) (m.run sent).2
  refine ⟨first ++ second, ?_, ?_⟩
  · show ((f (m.run sent).1).run (m.run sent).2).2 = sent ++ (first ++ second)
    rw [hsecond, hfirst, List.append_assoc]
  · intro e he
    rcases List.mem_append.mp he with he | he
    · exact hPfirst e he
    · exact hPsecond e he

/-- One computation after the other sends what the two of them send. -/
theorem sends_bind {m : Sending ε α} {f : α → Sending ε β} (hm : Sends P m)
    (hf : ∀ a, Sends P (f a)) : Sends P (m >>= f) :=
  sends_bind_of hm (gives_any m) (fun a _ => hf a)

/-- All that a computation sends first of all. -/
theorem Sends.mem {m : Sending ε α} (h : Sends P m) {e : ε} (he : e ∈ (m.run []).2) : P e := by
  obtain ⟨more, hmore, hP⟩ := h []
  rw [hmore] at he
  exact hP e he

/-- The second computation, when it is known what the first comes to. -/
theorem mem_run_bind {m : Sending ε α} {f : α → Sending ε β} (hf : Sends P (f (m.run []).1)) {e : ε}
    (he : e ∈ ((m >>= f).run []).2) : e ∈ (m.run []).2 ∨ P e := by
  obtain ⟨second, hsecond, hP⟩ := hf (m.run []).2
  have both : ((m >>= f).run []).2 = (m.run []).2 ++ second := hsecond
  rw [both] at he
  rcases List.mem_append.mp he with he | he
  · exact Or.inl he
  · exact Or.inr (hP e he)

end AdbControl.Framework
