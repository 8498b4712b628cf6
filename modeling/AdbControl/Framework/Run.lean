import Mathlib

namespace AdbControl.Framework

variable {σ ι ε : Type*}

/-- The state a list of inputs leads to, one input after the other. -/
def run (step : σ → ι → σ) (s : σ) (is : List ι) : σ := is.foldl step s

@[simp] theorem run_nil (step : σ → ι → σ) (s : σ) : run step s [] = s := rfl

@[simp] theorem run_cons (step : σ → ι → σ) (s : σ) (i : ι) (is : List ι) :
    run step s (i :: is) = run step (step s i) is := rfl

@[simp] theorem run_append (step : σ → ι → σ) (s : σ) (is js : List ι) :
    run step s (is ++ js) = run step (run step s is) js := List.foldl_append

theorem run_snoc (step : σ → ι → σ) (s : σ) (is : List ι) (i : ι) :
    run step s (is ++ [i]) = step (run step s is) i := by simp

/-- Every step of the run meets `C`, which sees the state the step starts from. -/
def Along (step : σ → ι → σ) (C : σ → ι → Prop) : σ → List ι → Prop
  | _, [] => True
  | s, i :: is => C s i ∧ Along step C (step s i) is

instance Along.decidable (step : σ → ι → σ) (C : σ → ι → Prop) [∀ s i, Decidable (C s i)] :
    ∀ s is, Decidable (Along step C s is)
  | _, [] => instDecidableTrue
  | s, i :: is =>
    haveI := Along.decidable step C (step s i) is
    inferInstanceAs (Decidable (C s i ∧ Along step C (step s i) is))

@[simp] theorem along_nil (step : σ → ι → σ) (C : σ → ι → Prop) (s : σ) :
    Along step C s [] := trivial

@[simp] theorem along_cons (step : σ → ι → σ) (C : σ → ι → Prop) (s : σ) (i : ι) (is : List ι) :
    Along step C s (i :: is) ↔ C s i ∧ Along step C (step s i) is := Iff.rfl

theorem along_append (step : σ → ι → σ) (C : σ → ι → Prop) (s : σ) (is js : List ι) :
    Along step C s (is ++ js) ↔ Along step C s is ∧ Along step C (run step s is) js := by
  induction is generalizing s with
  | nil => simp
  | cons i is ih => simp [ih, and_assoc]

/-- The step between any two parts of a run meets the run's condition. -/
theorem Along.at {step : σ → ι → σ} {C : σ → ι → Prop} {s : σ} {pre post : List ι} {i : ι}
    (h : Along step C s (pre ++ i :: post)) : C (run step s pre) i :=
  ((along_append step C s pre (i :: post)).mp h).2.1

theorem Along.before {step : σ → ι → σ} {C : σ → ι → Prop} {s : σ} {pre post : List ι}
    (h : Along step C s (pre ++ post)) : Along step C s pre :=
  ((along_append step C s pre post).mp h).1

/-- What holds at every split of a run holds along it. -/
theorem along_of_at {step : σ → ι → σ} {C : σ → ι → Prop} {s : σ} {is : List ι}
    (h : ∀ pre i post, is = pre ++ i :: post → C (run step s pre) i) : Along step C s is := by
  induction is generalizing s with
  | nil => trivial
  | cons i is ih =>
    refine ⟨h [] i is rfl, ih ?_⟩
    intro pre j post he
    simpa using h (i :: pre) j post (by simp [he])

/-- Run rule: an invariant that every step meeting `C` keeps holds at the end of a run whose
steps all meet `C`. -/
theorem run_invariant (Inv : σ → Prop) {step : σ → ι → σ} {C : σ → ι → Prop}
    (keep : ∀ s i, Inv s → C s i → Inv (step s i)) {s : σ} {is : List ι}
    (h0 : Inv s) (hC : Along step C s is) : Inv (run step s is) := by
  induction is generalizing s with
  | nil => exact h0
  | cons i is ih => exact ih (keep s i h0 hC.1) hC.2

/-- An invariant that every step keeps needs no condition on the run. -/
theorem run_invariant_of_step (Inv : σ → Prop) {step : σ → ι → σ}
    (keep : ∀ s i, Inv s → Inv (step s i)) {s : σ} (is : List ι) (h0 : Inv s) :
    Inv (run step s is) := by
  induction is generalizing s with
  | nil => exact h0
  | cons i is ih => exact ih (keep s i h0)

/-- Safety rule: under an invariant the run keeps, each step meeting `C` is safe, hence the
whole run is. -/
theorem along_safe (Inv : σ → Prop) {step : σ → ι → σ} {C Safe : σ → ι → Prop}
    (keep : ∀ s i, Inv s → C s i → Inv (step s i))
    (safe : ∀ s i, Inv s → C s i → Safe s i) {s : σ} {is : List ι}
    (h0 : Inv s) (hC : Along step C s is) : Along step Safe s is := by
  induction is generalizing s with
  | nil => trivial
  | cons i is ih => exact ⟨safe s i h0 hC.1, ih (keep s i h0 hC.1) hC.2⟩

/-- Two conditions that agree wherever an invariant holds, which the first of them keeps, hold
along the same runs. -/
theorem along_congr (Inv : σ → Prop) {step : σ → ι → σ} {C D : σ → ι → Prop}
    (keep : ∀ s i, Inv s → C s i → Inv (step s i))
    (agree : ∀ s i, Inv s → (C s i ↔ D s i)) {s : σ} {is : List ι} (h0 : Inv s) :
    Along step C s is ↔ Along step D s is := by
  induction is generalizing s with
  | nil => simp
  | cons i is ih =>
    rw [along_cons, along_cons, ← agree s i h0]
    constructor
    · intro h
      exact ⟨h.1, (ih (keep s i h0 h.1)).mp h.2⟩
    · intro h
      exact ⟨h.1, (ih (keep s i h0 h.1)).mpr h.2⟩

/-- The events a run emits, oldest first; a step may emit several or none. -/
def eventsOf (step : σ → ι → σ) (emit : σ → ι → List ε) : σ → List ι → List ε
  | _, [] => []
  | s, i :: is => emit s i ++ eventsOf step emit (step s i) is

@[simp] theorem eventsOf_nil (step : σ → ι → σ) (emit : σ → ι → List ε) (s : σ) :
    eventsOf step emit s [] = [] := rfl

@[simp] theorem eventsOf_cons (step : σ → ι → σ) (emit : σ → ι → List ε) (s : σ) (i : ι)
    (is : List ι) :
    eventsOf step emit s (i :: is) = emit s i ++ eventsOf step emit (step s i) is := rfl

theorem eventsOf_append (step : σ → ι → σ) (emit : σ → ι → List ε) (s : σ) (is js : List ι) :
    eventsOf step emit s (is ++ js) =
      eventsOf step emit s is ++ eventsOf step emit (run step s is) js := by
  induction is generalizing s with
  | nil => simp
  | cons i is ih => simp [ih]

/-- History rule: a relation between the state and the events so far that every step meeting `C`
keeps, with the events it emits, relates the final state to all events of the run. -/
theorem run_history_along (R : σ → List ε → Prop) {step : σ → ι → σ} {emit : σ → ι → List ε}
    {C : σ → ι → Prop} (keep : ∀ s h i, R s h → C s i → R (step s i) (h ++ emit s i)) {s : σ}
    {h : List ε} {is : List ι} (h0 : R s h) (hC : Along step C s is) :
    R (run step s is) (h ++ eventsOf step emit s is) := by
  induction is generalizing s h with
  | nil => simpa using h0
  | cons i is ih => simpa [List.append_assoc] using ih (keep s h i h0 hC.1) hC.2

theorem run_history (R : σ → List ε → Prop) {step : σ → ι → σ} {emit : σ → ι → List ε}
    (keep : ∀ s h i, R s h → R (step s i) (h ++ emit s i)) {s : σ} {h : List ε}
    (is : List ι) (h0 : R s h) : R (run step s is) (h ++ eventsOf step emit s is) := by
  induction is generalizing s h with
  | nil => simpa using h0
  | cons i is ih => simpa [List.append_assoc] using ih (keep s h i h0)

/-- What a run does not emit, none of its steps emits. -/
theorem along_not_mem {step : σ → ι → σ} {emit : σ → ι → List ε} {e : ε} {s : σ} {is : List ι}
    (h : e ∉ eventsOf step emit s is) : Along step (fun s i => e ∉ emit s i) s is := by
  induction is generalizing s with
  | nil => trivial
  | cons i is ih =>
    rw [eventsOf_cons, List.mem_append, not_or] at h
    exact ⟨h.1, ih h.2⟩

/-- Two conditions that hold along a run hold along it together. -/
theorem along_and {step : σ → ι → σ} {C D : σ → ι → Prop} {s : σ} {is : List ι} :
    Along step (fun s i => C s i ∧ D s i) s is ↔ Along step C s is ∧ Along step D s is := by
  induction is generalizing s with
  | nil => simp
  | cons i is ih =>
    simp only [along_cons, ih]
    exact and_and_and_comm

/-- A step that nothing after it repeats stands in one place of the run only. -/
theorem split_unique {step : σ → ι → σ} {E : σ → ι → Prop} {s : σ} {is pre pre' post post' : List ι}
    {i i' : ι} (h : is = pre ++ i :: post) (h' : is = pre' ++ i' :: post')
    (hE : E (run step s pre) i) (hE' : E (run step s pre') i')
    (once : Along step (fun s i => ¬E s i) (run step s (pre ++ [i])) post)
    (once' : Along step (fun s i => ¬E s i) (run step s (pre' ++ [i'])) post') :
    pre = pre' ∧ i = i' ∧ post = post' := by
  -- a later one would stand in the part that the earlier one rules out
  have apart {p q : List ι} {j k : ι} {r : List ι} {mid : List ι}
      (hq : q = p ++ j :: mid) (hk : E (run step s q) k)
      (ho : Along step (fun s i => ¬E s i) (run step s (p ++ [j])) (mid ++ k :: r)) : False := by
    have hnot := ho.at
    rw [← run_append, List.append_assoc, List.singleton_append, ← hq] at hnot
    exact hnot hk
  rcases List.append_eq_append_iff.mp (h.symm.trans h') with ⟨as, hp, hs⟩ | ⟨as, hp, hs⟩
  · cases as with
    | nil =>
      obtain ⟨hi, hpost⟩ := List.cons.inj hs
      exact ⟨by simp [hp], hi, hpost⟩
    | cons j mid =>
      obtain ⟨hi, hpost⟩ := List.cons.inj hs
      subst hi hpost
      exact (apart hp hE' once).elim
  · cases as with
    | nil =>
      obtain ⟨hi, hpost⟩ := List.cons.inj hs
      exact ⟨by simp [hp], hi.symm, hpost.symm⟩
    | cons j mid =>
      obtain ⟨hi, hpost⟩ := List.cons.inj hs
      subst hi hpost
      exact (apart hp hE once').elim

section Since

variable {step : σ → ι → σ} {opens closes : σ → ι → Prop} {s : σ}

/-- Some step of the run opened, and no later step closed. -/
def Since (step : σ → ι → σ) (opens closes : σ → ι → Prop) (s : σ) (is : List ι) : Prop :=
  ∃ pre i post, is = pre ++ i :: post ∧ opens (run step s pre) i ∧
    Along step (fun s i => ¬closes s i) (run step s (pre ++ [i])) post

theorem since_nil : ¬Since step opens closes s [] := by
  intro h
  obtain ⟨pre, i, post, he, -⟩ := h
  simp at he

/-- The last step opened, or it did not close what was open before. -/
theorem since_snoc (is : List ι) (i : ι) :
    Since step opens closes s (is ++ [i]) ↔ opens (run step s is) i ∨
      Since step opens closes s is ∧ ¬closes (run step s is) i := by
  constructor
  · intro h
    obtain ⟨pre, j, post, he, hopen, hquiet⟩ := h
    rcases List.eq_nil_or_concat post with hp | ⟨post', k, hp⟩
    · subst hp
      obtain ⟨h1, h2⟩ := List.append_inj' he rfl
      cases h2
      subst h1
      exact Or.inl hopen
    · subst hp
      have he' : is ++ [i] = (pre ++ j :: post') ++ [k] := by simpa using he
      obtain ⟨h1, h2⟩ := List.append_inj' he' rfl
      cases h2
      rw [List.concat_eq_append, along_append] at hquiet
      refine Or.inr ⟨⟨pre, j, post', h1, hopen, hquiet.1⟩, ?_⟩
      have hlast := hquiet.2.1
      rwa [← run_append, List.append_assoc, List.singleton_append, ← h1] at hlast
  · intro h
    rcases h with hopen | ⟨⟨pre, j, post, he, hopen, hquiet⟩, hclose⟩
    · exact ⟨is, i, [], rfl, hopen, trivial⟩
    · refine ⟨pre, j, post ++ [i], by simp [he], hopen, ?_⟩
      rw [along_append, ← run_append, List.append_assoc, List.singleton_append, ← he]
      exact ⟨hquiet, hclose, trivial⟩

/-- Since rule, one way: what no step brings about but an opening one, and a closing one ends,
has been opened since. -/
theorem since_of_run (R : σ → Prop) (h0 : ¬R s)
    (only : ∀ s i, R (step s i) → opens s i ∨ R s ∧ ¬closes s i) (is : List ι)
    (h : R (run step s is)) : Since step opens closes s is := by
  induction is using List.reverseRecOn with
  | nil => exact absurd h h0
  | append_singleton is i ih =>
    rw [run_snoc] at h
    rw [since_snoc]
    rcases only _ _ h with hopen | ⟨hR, hclose⟩
    · exact Or.inl hopen
    · exact Or.inr ⟨ih hR, hclose⟩

/-- Since rule, the other way: what opening brings about stays until it is closed, for as long
as it is live; what is live was live before. -/
theorem run_of_since (R L : σ → Prop) (live : ∀ s i, L (step s i) → L s)
    (opened : ∀ s i, opens s i → R (step s i))
    (kept : ∀ s i, L s → R s → ¬closes s i → R (step s i)) (is : List ι)
    (hL : L (run step s is)) (h : Since step opens closes s is) : R (run step s is) := by
  induction is using List.reverseRecOn with
  | nil => exact absurd h since_nil
  | append_singleton is i ih =>
    rw [run_snoc] at hL ⊢
    rcases (since_snoc is i).mp h with hopen | ⟨hsince, hclose⟩
    · exact opened _ _ hopen
    · have before := live _ _ hL
      exact kept _ _ before (ih before hsince) hclose

/-- Openings that cannot recur need not be counted as closing. -/
theorem since_or_iff {again : σ → ι → Prop} {is : List ι}
    (once : ∀ pre i post, is = pre ++ i :: post → opens (run step s pre) i →
      Along step (fun s i => ¬again s i) (run step s (pre ++ [i])) post) :
    Since step opens (fun s i => closes s i ∨ again s i) s is ↔ Since step opens closes s is := by
  constructor
  · intro h
    obtain ⟨pre, i, post, he, hopen, hquiet⟩ := h
    simp only [not_or, along_and] at hquiet
    exact ⟨pre, i, post, he, hopen, hquiet.1⟩
  · intro h
    obtain ⟨pre, i, post, he, hopen, hquiet⟩ := h
    refine ⟨pre, i, post, he, hopen, ?_⟩
    simp only [not_or, along_and]
    exact ⟨hquiet, once pre i post he hopen⟩

end Since

section LastOf

variable {p : ε → Bool}

/-- The last event of a kind. -/
def lastOf (p : ε → Bool) (h : List ε) : Option ε := (h.filter p).getLast?

@[simp] theorem lastOf_nil : lastOf p ([] : List ε) = none := rfl

theorem lastOf_snoc (h : List ε) (e : ε) :
    lastOf p (h ++ [e]) = if p e then some e else lastOf p h := by
  cases hp : p e <;> simp [lastOf, hp]

theorem lastOf_spec {h : List ε} {e : ε} (hl : lastOf p h = some e) : e ∈ h ∧ p e = true :=
  List.mem_filter.mp (List.mem_of_getLast? hl)

end LastOf

/-- Events that a list names without repetition are told apart by their names. -/
theorem eq_of_nodup_filterMap {κ : Type*} {name : ε → Option κ} {h : List ε}
    (hn : (h.filterMap name).Nodup) {a b : ε} {k : κ} (ha : a ∈ h) (hb : b ∈ h)
    (hka : name a = some k) (hkb : name b = some k) : a = b := by
  by_contra hne
  have apart := List.pairwise_filterMap.mp hn
  have symmetric : Std.Symm (fun a b : ε => ∀ k, name a = some k → ∀ k', name b = some k' →
      k ≠ k') := ⟨fun _ _ hab k hk k' hk' => (hab k' hk' k hk).symm⟩
  exact apart.forall ha hb hne k hka k hkb rfl

end AdbControl.Framework
