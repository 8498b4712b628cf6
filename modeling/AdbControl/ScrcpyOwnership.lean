import AdbControl.ScrcpyProcesses

namespace AdbControl

open Framework

namespace AdbProcessManager

variable {s s' : AdbProcessManager}

/-- No step forgets a child, gives it to another session or brings it back. -/
def Grows (s s' : AdbProcessManager) : Prop :=
  ∀ (p : Nat) (c : Child), s.spawned[p]? = some c → ∃ c' : Child, s'.spawned[p]? = some c' ∧
    c'.session = c.session ∧ (c.state = .reaped → c'.state = .reaped)

theorem getElem?_setState (s : AdbProcessManager) (child : Nat) (state : ChildState) (p : Nat) :
    (s.setState child state).spawned[p]? =
      s.spawned[p]?.map fun c => if child = p then { c with state := state } else c := by
  rw [setState, List.getElem?_modify]
  split_ifs with hp <;> simp

theorem Moves.grows (h : Moves s s') : Grows s s' := by
  intro p c hc
  cases h with
  | spawns session =>
    refine ⟨c, ?_, rfl, id⟩
    rw [List.getElem?_append_left (List.getElem?_eq_some_iff.mp hc).1]
    exact hc
  | exits child hrunning =>
    refine ⟨_, by rw [getElem?_setState, hc, Option.map_some], ?_, ?_⟩
    · split_ifs <;> rfl
    · intro hreaped
      have other : ¬child = p := by
        rintro rfl
        rw [hc, Option.map_some, hreaped] at hrunning
        cases hrunning
      rw [if_neg other]
      exact hreaped
  | reaps k child call next _ _ _ _ =>
    refine ⟨_, by rw [reap, getElem?_setState, hc, Option.map_some], ?_, ?_⟩
    · split_ifs <;> rfl
    · intro hreaped
      split_ifs
      · rfl
      · exact hreaped
  | drops _ =>
    refine ⟨_, by rw [List.getElem?_mapIdx, hc, Option.map_some], ?_, ?_⟩
    · split_ifs <;> rfl
    · intro hreaped
      split_ifs
      · rfl
      · exact hreaped
  | _ => exact ⟨c, hc, rfl, id⟩

/-- What a call says of the children is so. -/
structure Fits (s : AdbProcessManager) (call : ProcessCall) : Prop where
  known : ∀ p, call.child? = some p → p < s.spawned.length
  named : ∀ session p, call = .spawned session p → ∃ c, s.spawned[p]? = some c ∧ c.session = session
  stopped : ∀ p, call = .stopped (some p) → ∃ c, s.spawned[p]? = some c ∧ c.state = .reaped

theorem Fits.grows {call : ProcessCall} (h : Fits s call) (hgrows : Grows s s') : Fits s' call := by
  refine ⟨?_, ?_, ?_⟩
  · intro p hp
    obtain ⟨c', hc', -⟩ := hgrows p _ (List.getElem?_eq_getElem (h.known p hp))
    exact (List.getElem?_eq_some_iff.mp hc').1
  · intro session p hp
    obtain ⟨c, hc, hsession⟩ := h.named session p hp
    obtain ⟨c', hc', hsame, -⟩ := hgrows p c hc
    exact ⟨c', hc', hsame.trans hsession⟩
  · intro p hp
    obtain ⟨c, hc, hreaped⟩ := h.stopped p hp
    obtain ⟨c', hc', -, hstill⟩ := hgrows p c hc
    exact ⟨c', hc', hstill hreaped⟩

end AdbProcessManager

/-- The child waits for this call. -/
def ProcessCall.holds (p : Nat) (call : ProcessCall) : Bool := decide (call.child? = some p)

namespace AdbProcessManager

/-- Every child that is not yet waited for is in one place, once: in the registry under its session, or
with one call; and the mutex lets one call inside at a time. -/
structure Owned (s : AdbProcessManager) : Prop where
  listed : ∀ (session : String) (p : Nat), s.children[session]? = some p →
    ∃ c, s.spawned[p]? = some c ∧ c.session = session
  owned : ∀ (p : Nat) (c : Child), s.spawned[p]? = some c →
    (if s.children[c.session]? = some p then 1 else 0) + s.calls.countP (ProcessCall.holds p) =
      if c.state = .reaped then 0 else 1
  inside : s.calls.countP ProcessCall.inside = if s.locked then 1 else 0
  fits : ∀ call ∈ s.calls, Fits s call

variable {s s' : AdbProcessManager}

theorem forall_mem_moved {P : ProcessCall → Prop} {calls : List ProcessCall} (h : ∀ call ∈ calls, P call)
    {next : ProcessCall} (hnext : P next) (k : Nat) : ∀ call ∈ calls.set k next, P call := by
  intro call hcall
  rcases List.mem_or_eq_of_mem_set hcall with hold | rfl
  · exact h call hold
  · exact hnext

theorem countP_holds {k : Nat} {call : ProcessCall} (hk : s.calls[k]? = some call) (next : ProcessCall)
    (p : Nat) : (s.calls.set k next).countP (ProcessCall.holds p) + (if call.child? = some p then 1 else 0) =
      s.calls.countP (ProcessCall.holds p) + if next.child? = some p then 1 else 0 := by
  simpa [ProcessCall.holds] using countP_moved (ProcessCall.holds p) hk next

/-- A call moves on with the same child, or none, and the registry stays. -/
theorem Owned.moved (hs : Owned s) {k : Nat} {call : ProcessCall} (hk : s.calls[k]? = some call)
    (next : ProcessCall) (same : next.child? = call.child?) (fits : Fits s next) (locked : Bool)
    (inside : (if s.locked then 1 else 0) + (if next.inside then 1 else 0) =
      (if locked then 1 else 0) + if call.inside then 1 else 0) :
    Owned { s with locked := locked, calls := s.calls.set k next } := by
  have hgrows : Grows s { s with locked := locked, calls := s.calls.set k next } :=
    fun p c hc => ⟨c, hc, rfl, id⟩
  refine ⟨hs.listed, ?_, ?_, ?_⟩
  · intro p c hc
    have hcount := countP_holds hk next p
    rw [same] at hcount
    rw [← hs.owned p c hc]
    exact congrArg _ (Nat.add_right_cancel hcount)
  · have hcount := countP_moved ProcessCall.inside hk next
    rw [hs.inside, inside] at hcount
    exact Nat.add_right_cancel hcount
  · exact forall_mem_moved (fun call hcall => (hs.fits call hcall).grows hgrows) (fits.grows hgrows) k

theorem Fits.of_other {call : ProcessCall} (nothing : call.child? = none)
    (other : ∀ child, call ≠ .stopped (some child)) : Fits s call := by
  refine ⟨?_, ?_, fun p hp => absurd hp (other p)⟩
  · intro p hp
    rw [nothing] at hp
    cases hp
  · intro session p hp
    rw [hp] at nothing
    cases nothing

theorem Fits.of_inside {call next : ProcessCall} (h : Fits s call) (same : next.child? = call.child?)
    (inside : next.inside = true) : Fits s next := by
  refine ⟨fun p hp => h.known p (same.symm.trans hp), ?_, ?_⟩
  · intro session p hp
    rw [hp] at inside
    cases inside
  · intro p hp
    rw [hp] at inside
    cases inside

/-- A call that has the registry has locked it. -/
theorem Owned.locked (hs : Owned s) {k : Nat} {call : ProcessCall} (hk : s.calls[k]? = some call)
    (inside : call.inside = true) : s.locked = true := by
  have one : 0 < s.calls.countP ProcessCall.inside :=
    List.countP_pos_iff.mpr ⟨call, List.mem_of_getElem? hk, inside⟩
  rw [hs.inside] at one
  by_contra hfree
  rw [if_neg hfree] at one
  exact absurd one (lt_irrefl _)

/-- What the registry and the calls have of a child does not change where its state does not. -/
theorem Owned.kept (hs : Owned s) (hcalls : s'.calls = s.calls) (hchildren : s'.children = s.children)
    (hlocked : s'.locked = s.locked) (hgrows : Grows s s')
    (hstates : ∀ (p : Nat) (c' : Child), s'.spawned[p]? = some c' → ∃ c, s.spawned[p]? = some c ∧
      c.session = c'.session ∧ (c.state = .reaped ↔ c'.state = .reaped)) : Owned s' := by
  refine ⟨?_, ?_, ?_, ?_⟩
  · intro session p hp
    rw [hchildren] at hp
    obtain ⟨c, hc, hsession⟩ := hs.listed session p hp
    obtain ⟨c', hc', hsame, -⟩ := hgrows p c hc
    exact ⟨c', hc', hsame.trans hsession⟩
  · intro p c' hc'
    obtain ⟨c, hc, hsession, hstate⟩ := hstates p c' hc'
    rw [hchildren, hcalls, ← hsession, hs.owned p c hc]
    simp only [hstate]
  · rw [hcalls, hlocked]
    exact hs.inside
  · rw [hcalls]
    exact fun call hcall => (hs.fits call hcall).grows hgrows

theorem Owned.begins (hs : Owned s) {call : ProcessCall} (outside : call.inside = false)
    (nothing : call.child? = none) (other : ∀ child, call ≠ .stopped child) : Owned (s.begin call) := by
  have hgrows : Grows s (s.begin call) := fun p c hc => ⟨c, hc, rfl, id⟩
  refine ⟨hs.listed, ?_, ?_, ?_⟩
  · intro p c hc
    rw [begin, List.countP_append, List.countP_singleton, ProcessCall.holds, nothing]
    exact hs.owned p c hc
  · rw [begin, List.countP_append, List.countP_singleton, outside]
    exact hs.inside
  · rw [begin, List.forall_mem_append, List.forall_mem_singleton]
    exact ⟨fun call hcall => (hs.fits call hcall).grows hgrows,
      .of_other nothing fun child h => other _ h⟩

theorem Owned.spawns (hs : Owned s) (session : String) : Owned { s with
    spawned := s.spawned ++ [⟨session, .running⟩],
    calls := s.calls ++ [.spawned session s.spawned.length] } := by
  have hgrows := (Moves.spawns (s := s) session).grows
  have fresh : s.calls.countP (ProcessCall.holds s.spawned.length) = 0 := by
    rw [List.countP_eq_zero]
    intro call hcall hholds
    exact absurd ((hs.fits call hcall).known _ (of_decide_eq_true hholds)) (lt_irrefl _)
  have unlisted : s.children[session]? ≠ some s.spawned.length := by
    intro hlisted
    obtain ⟨c, hc, -⟩ := hs.listed session _ hlisted
    exact absurd (List.getElem?_eq_some_iff.mp hc).1 (lt_irrefl _)
  refine ⟨?_, ?_, ?_, ?_⟩
  · intro session p hp
    obtain ⟨c, hc, hsession⟩ := hs.listed session p hp
    obtain ⟨c', hc', hsame, -⟩ := hgrows p c hc
    exact ⟨c', hc', hsame.trans hsession⟩
  · intro p c hc
    rw [List.countP_append, List.countP_singleton]
    simp only [ProcessCall.holds, ProcessCall.child?, decide_eq_true_eq, Option.some.injEq]
    by_cases hp : s.spawned.length = p
    · subst hp
      rw [List.getElem?_concat_length] at hc
      cases hc
      rw [if_neg unlisted, if_pos rfl, if_neg (show ChildState.running ≠ .reaped by decide)]
      exact congrArg (fun n => 0 + (n + 1)) fresh
    · rw [List.getElem?_append] at hc
      split_ifs at hc with hlt
      · rw [if_neg hp]
        exact hs.owned p c hc
      · have hend := (List.getElem?_eq_some_iff.mp hc).1
        rw [List.length_singleton] at hend
        omega
  · rw [List.countP_append]
    exact hs.inside
  · rw [List.forall_mem_append, List.forall_mem_singleton]
    refine ⟨fun call hcall => (hs.fits call hcall).grows hgrows, ?_, ?_, ?_⟩
    · intro p hp
      cases hp
      simp
    · intro other p hp
      cases hp
      exact ⟨_, List.getElem?_concat_length, rfl⟩
    · intro p hp
      cases hp

theorem Owned.once (hs : Owned s) {p : Nat} {c : Child} (hc : s.spawned[p]? = some c) :
    (if s.children[c.session]? = some p then 1 else 0) + s.calls.countP (ProcessCall.holds p) ≤ 1 := by
  rw [hs.owned p c hc]
  split_ifs <;> decide

/-- A child of the registry is one of its session. -/
theorem Owned.session_eq (hs : Owned s) {session : String} {p : Nat} {c : Child}
    (hp : s.children[session]? = some p) (hc : s.spawned[p]? = some c) : c.session = session := by
  obtain ⟨c', hc', hsession⟩ := hs.listed session p hp
  obtain rfl : c = c' := Option.some.inj (hc.symm.trans hc')
  exact hsession

/-- A child comes into the registry, and the call goes on with the one that was there, if any. -/
theorem Owned.inserts (hs : Owned s) {k : Nat} {session : String} {child : Nat} (free : s.locked = false)
    (caller : s.calls[k]? = some (.spawned session child)) (next : ProcessCall)
    (previous : next.child? = s.children[session]?)
    (starting : ∀ session child, next ≠ .spawned session child)
    (running : ∀ child, next ≠ .stopped child) :
    Owned ⟨s.spawned, s.children.insert session child, next.inside, s.calls.set k next⟩ := by
  have hgrows : Grows s ⟨s.spawned, s.children.insert session child, next.inside, s.calls.set k next⟩ :=
    fun p c hc => ⟨c, hc, rfl, id⟩
  obtain ⟨c₀, hc₀, hsession⟩ := (hs.fits _ (List.mem_of_getElem? caller)).named session child rfl
  refine ⟨?_, ?_, ?_, ?_⟩
  · intro other p hp
    rcases Keyed.lookup_insert_cases hp with ⟨rfl, rfl⟩ | ⟨-, hp⟩
    · exact ⟨c₀, hc₀, hsession⟩
    · exact hs.listed other p hp
  · intro p c hc
    have hcount := countP_holds caller next p
    have own : (ProcessCall.spawned session child).child? = some child := rfl
    rw [own, previous] at hcount
    simp only [Option.some.injEq] at hcount
    rw [← hs.owned p c hc, Keyed.lookup_insert]
    by_cases hname : c.session = session
    · rw [if_pos hname, hname]
      simp only [Option.some.injEq]
      omega
    · -- another session's child was not registered here, and is not the call's
      have notChild : child ≠ p := by
        rintro rfl
        rw [Option.some.inj (hc.symm.trans hc₀)] at hname
        exact hname hsession
      have notPrevious : s.children[session]? ≠ some p := fun hp => hname (hs.session_eq hp hc)
      rw [if_neg notChild, if_neg notPrevious] at hcount
      rw [if_neg hname]
      exact congrArg _ hcount
  · have hcount := countP_moved ProcessCall.inside caller next
    rw [hs.inside, free] at hcount
    exact hcount.trans (Nat.zero_add _)
  · refine forall_mem_moved (fun call hcall => (hs.fits call hcall).grows hgrows) ⟨?_, ?_, ?_⟩ k
    · intro p hp
      rw [previous] at hp
      obtain ⟨c, hc, -⟩ := hs.listed session p hp
      exact (List.getElem?_eq_some_iff.mp hc).1
    · exact fun session p hp => absurd hp (starting session p)
    · exact fun p hp => absurd hp (running _)

/-- A child goes out of the registry, to the call that stops it. -/
theorem Owned.removes (hs : Owned s) {k : Nat} {session : String} {child : Nat} (free : s.locked = false)
    (caller : s.calls[k]? = some (.stopping session)) (used : s.children[session]? = some child) :
    Owned ⟨s.spawned, s.children.erase session, true, s.calls.set k (.looking child)⟩ := by
  have hgrows : Grows s ⟨s.spawned, s.children.erase session, true, s.calls.set k (.looking child)⟩ :=
    fun p c hc => ⟨c, hc, rfl, id⟩
  refine ⟨?_, ?_, ?_, ?_⟩
  · intro other p hp
    rw [Keyed.lookup_erase] at hp
    split_ifs at hp
    exact hs.listed other p hp
  · intro p c hc
    have hcount := countP_holds caller (.looking child) p
    have own : (ProcessCall.looking child).child? = some child := rfl
    have none : (ProcessCall.stopping session).child? = none := rfl
    rw [own, none] at hcount
    simp only [Option.some.injEq, reduceCtorEq, if_false, Nat.add_zero] at hcount
    rw [← hs.owned p c hc, Keyed.lookup_erase]
    by_cases hname : c.session = session
    · rw [if_pos hname, hname, used]
      simp only [Option.some.injEq, reduceCtorEq, if_false]
      omega
    · have notChild : child ≠ p := by
        rintro rfl
        exact hname (hs.session_eq used hc)
      rw [if_neg notChild] at hcount
      rw [if_neg hname]
      exact congrArg _ hcount
  · have hcount := countP_moved ProcessCall.inside caller (.looking child)
    rw [hs.inside, free] at hcount
    exact hcount
  · refine forall_mem_moved (fun call hcall => (hs.fits call hcall).grows hgrows) ⟨?_, ?_, ?_⟩ k
    · intro p hp
      obtain ⟨c, hc, -⟩ := hs.listed session p (used.trans hp)
      exact (List.getElem?_eq_some_iff.mp hc).1
    · intro session p hp
      cases hp
    · intro p hp
      cases hp

/-- The call that has a child waits for it, and leaves the registry. -/
theorem Owned.reaps (hs : Owned s) {k child : Nat} {call next : ProcessCall} (caller : s.calls[k]? = some call)
    (inside : call.inside = true) (holds : call.child? = some child)
    (finished : next = .stopped (some child) ∨ ∃ c, next = .started c) : Owned (s.reap k child next) := by
  have hgrows := (Moves.reaps k child call next caller inside holds finished).grows
  have nothing : next.child? = none ∧ next.inside = false := by
    rcases finished with rfl | ⟨c, rfl⟩ <;> exact ⟨rfl, rfl⟩
  refine ⟨?_, ?_, ?_, ?_⟩
  · intro session p hp
    obtain ⟨c, hc, hsession⟩ := hs.listed session p hp
    obtain ⟨c', hc', hsame, -⟩ := hgrows p c hc
    exact ⟨c', hc', hsame.trans hsession⟩
  · intro p c' hc'
    rw [reap, getElem?_setState] at hc'
    obtain ⟨c, hc, rfl⟩ := Option.map_eq_some_iff.mp hc'
    have honce := hs.once hc
    have hcount := countP_holds caller next p
    rw [holds, nothing.1] at hcount
    simp only [Option.some.injEq, reduceCtorEq, if_false, Nat.add_zero] at hcount
    by_cases hp : child = p
    · rw [if_pos hp] at hcount ⊢
      show (if s.children[c.session]? = some p then 1 else 0) + (s.calls.set k next).countP _ = 0
      omega
    · rw [if_neg hp] at hcount ⊢
      rw [← hs.owned p c hc]
      exact congrArg _ hcount
  · have hcount := countP_moved ProcessCall.inside caller next
    rw [hs.inside, inside, nothing.2] at hcount
    have one : (if s.locked = true then 1 else 0) ≤ 1 := by split_ifs <;> decide
    show (s.calls.set k next).countP ProcessCall.inside = 0
    simp only [if_true, Bool.false_eq_true, if_false, Nat.add_zero] at hcount
    omega
  · refine forall_mem_moved (fun call hcall => (hs.fits call hcall).grows hgrows) ⟨?_, ?_, ?_⟩ k
    · intro p hp
      rw [nothing.1] at hp
      cases hp
    · intro session p hp
      rw [hp] at nothing
      cases nothing.1
    · intro p hp
      rcases finished with rfl | ⟨c, rfl⟩
      · cases hp
        have hlt := (hs.fits _ (List.mem_of_getElem? caller)).known child holds
        refine ⟨_, by rw [reap, getElem?_setState, List.getElem?_eq_getElem hlt, Option.map_some], ?_⟩
        rw [if_pos rfl]
      · cases hp

theorem Owned.drops (hs : Owned s) (answered : ∀ call ∈ s.calls, call.answered = true) : Owned { s with
    spawned := s.spawned.mapIdx fun p c =>
      if s.children[c.session]? = some p then { c with state := .reaped } else c,
    children := ∅ } := by
  have hgrows := (Moves.drops answered).grows
  refine ⟨?_, ?_, hs.inside, fun call hcall => (hs.fits call hcall).grows hgrows⟩
  · intro session p hp
    simp at hp
  · intro p c' hc'
    rw [List.getElem?_mapIdx] at hc'
    obtain ⟨c, hc, rfl⟩ := Option.map_eq_some_iff.mp hc'
    have unlisted : ¬(∅ : Keyed String Nat)[c.session]? = some p := by simp
    by_cases hlisted : s.children[c.session]? = some p
    · have honce := hs.once hc
      rw [if_pos hlisted] at honce ⊢
      show (if (∅ : Keyed String Nat)[c.session]? = some p then 1 else 0) + s.calls.countP _ = 0
      rw [if_neg unlisted]
      omega
    · have howned := hs.owned p c hc
      rw [if_neg hlisted] at howned ⊢
      show (if (∅ : Keyed String Nat)[c.session]? = some p then 1 else 0) + s.calls.countP _ = _
      rw [if_neg unlisted]
      exact howned

theorem Owned.step (hs : Owned s) (h : Moves s s') : Owned s' := by
  have hgrows := h.grows
  cases h with
  | stays => exact hs
  | begins call outside nothing other => exact hs.begins outside nothing other
  | spawns session => exact hs.spawns session
  | exits child running =>
    refine hs.kept rfl rfl rfl hgrows ?_
    intro p c' hc'
    rw [getElem?_setState] at hc'
    obtain ⟨c, hc, rfl⟩ := Option.map_eq_some_iff.mp hc'
    refine ⟨c, hc, ?_, ?_⟩
    · split_ifs <;> rfl
    · split_ifs with hp
      · subst hp
        rw [hc, Option.map_some, Option.some.injEq] at running
        rw [running]
        decide
      · rfl
  | registers k session child free caller unused =>
    have hinserts := hs.inserts free caller (.started child) unused.symm (fun _ _ h => by cases h)
      (fun _ h => by cases h)
    rw [free]
    exact hinserts
  | replaces k session child previous free caller used =>
    exact hs.inserts free caller (.replacing previous child) used.symm (fun _ _ h => by cases h)
      (fun _ h => by cases h)
  | misses k session caller =>
    exact hs.moved caller (.stopped none) rfl (.of_other rfl fun _ h => by cases h) s.locked rfl
  | removes k session child free caller used => exact hs.removes free caller used
  | passes k call next caller same inside inside' =>
    have hfits := (hs.fits _ (List.mem_of_getElem? caller)).of_inside same inside'
    exact hs.moved caller next same hfits s.locked (by rw [inside, inside'])
  | loses k child caller =>
    have hknown := (hs.fits _ (List.mem_of_getElem? caller)).known
    refine hs.moved caller (.lost child) rfl ⟨hknown, ?_, ?_⟩ false ?_
    · intro session p hp
      cases hp
    · intro p hp
      cases hp
    · rw [hs.locked caller rfl]
      rfl
  | reaps k child call next caller inside holds finished => exact hs.reaps caller inside holds finished
  | drops answered => exact hs.drops answered

theorem owned_default : Owned default := by
  refine ⟨?_, ?_, rfl, ?_⟩
  · intro session p hp
    simp [default] at hp
  · intro p c hc
    simp [default] at hc
  · intro call hcall
    simp [default] at hcall

/-- Where a child is that has not been waited for: under its session, or with one call -/
inductive Place (s : AdbProcessManager) (p : Nat) (c : Child) : Prop
  | registered (listed : s.children[c.session]? = some p) (free : ∀ call ∈ s.calls, call.child? ≠ some p)
  | held (unlisted : s.children[c.session]? ≠ some p) (k : Nat) (call : ProcessCall)
      (here : s.calls[k]? = some call) (holds : call.child? = some p)
      (once : ∀ j call', s.calls[j]? = some call' → call'.child? = some p → j = k)

theorem Owned.place (hs : Owned s) {p : Nat} {c : Child} (hc : s.spawned[p]? = some c)
    (alive : c.state ≠ .reaped) : Place s p c := by
  have howned := hs.owned p c hc
  rw [if_neg alive] at howned
  by_cases hlisted : s.children[c.session]? = some p
  · rw [if_pos hlisted] at howned
    have nobody : s.calls.countP (ProcessCall.holds p) = 0 := by omega
    rw [List.countP_eq_zero] at nobody
    exact .registered hlisted fun call hcall hholds => nobody call hcall (decide_eq_true hholds)
  · rw [if_neg hlisted, Nat.zero_add] at howned
    have somebody : 0 < s.calls.countP (ProcessCall.holds p) := by omega
    obtain ⟨call, hcall, hholds⟩ := List.countP_pos_iff.mp somebody
    obtain ⟨k, hk⟩ := List.mem_iff_getElem?.mp hcall
    refine .held hlisted k call hk (of_decide_eq_true hholds) ?_
    intro j call' hj hholds'
    by_contra hne
    have two := two_le_countP hne hj hk (decide_eq_true hholds') hholds
    omega

end AdbProcessManager

/-- What the manager promises of the processes it starts -/
structure OwnsChildren (s : AdbProcessManager) : Prop where
  /-- Every child that is not waited for can still be waited for, from one place. -/
  place : ∀ (p : Nat) (c : Child), s.spawned[p]? = some c → c.state ≠ .reaped → s.Place p c
  /-- A session has its own child, which has not been waited for. -/
  session : ∀ (session : String) (p : Nat), s.children[session]? = some p →
    ∃ c, s.spawned[p]? = some c ∧ c.session = session ∧ c.state ≠ .reaped
  /-- A call answers that it stopped a child only when it has waited for it. -/
  stopped : ∀ call ∈ s.calls, call.answer = some (.ok (.inr true)) →
    ∃ p c, call = .stopped (some p) ∧ s.spawned[p]? = some c ∧ c.state = .reaped
  /-- One call at a time has the registry. -/
  exclusive : ∀ (j k : Nat) (call call' : ProcessCall), s.calls[j]? = some call →
    s.calls[k]? = some call' → call.inside = true → call'.inside = true → j = k
  /-- When all calls have returned, nothing is left but the children of the sessions, and those that could
  not be killed. -/
  quiet : (∀ call ∈ s.calls, call.answered = true) → ∀ (p : Nat) (c : Child), s.spawned[p]? = some c →
    (c.state ≠ .reaped ↔ s.children[c.session]? = some p ∨ .lost p ∈ s.calls)

open AdbProcessManager in
/-- In every run, whatever calls overlap, spawns and kills fail, and children exit by themselves -/
theorem scrcpy_children_owned (acts : List ProcessAct) : OwnsChildren (run step default acts) := by
  have hs : Owned (run step default acts) :=
    run_invariant_of_step Owned (fun s a hs => hs.step (step_moves s a)) acts owned_default
  generalize run step default acts = s at hs
  have listed (session : String) (p : Nat) (hp : s.children[session]? = some p) :
      ∃ c, s.spawned[p]? = some c ∧ c.session = session ∧ c.state ≠ .reaped := by
    obtain ⟨c, hc, rfl⟩ := hs.listed session p hp
    refine ⟨c, hc, rfl, ?_⟩
    intro hreaped
    have howned := hs.owned p c hc
    rw [if_pos hp, if_pos hreaped] at howned
    omega
  refine ⟨fun p c hc alive => hs.place hc alive, listed, ?_, ?_, ?_⟩
  · intro call hcall hanswer
    cases call with
    | stopped child =>
      cases child with
      | none => cases hanswer
      | some p =>
        obtain ⟨c, hc, hreaped⟩ := (hs.fits _ hcall).stopped p rfl
        exact ⟨p, c, rfl, hc, hreaped⟩
    | _ => cases hanswer
  · intro j k call call' hj hk hinside hinside'
    by_contra hne
    have two := two_le_countP hne hj hk hinside hinside'
    rw [hs.inside] at two
    split_ifs at two <;> omega
  · intro answered p c hc
    constructor
    · intro alive
      rcases hs.place hc alive with ⟨hlisted, -⟩ | ⟨-, k, call, hk, hholds, -⟩
      · exact Or.inl hlisted
      · have hanswered := answered call (List.mem_of_getElem? hk)
        cases call with
        | lost child =>
          cases hholds
          exact Or.inr (List.mem_of_getElem? hk)
        | refused _ | started _ | stopped _ => cases hholds
        | _ => cases hanswered
    · intro hplace
      rcases hplace with hlisted | hlost
      · obtain ⟨c', hc', -, alive⟩ := listed _ _ hlisted
        rwa [Option.some.inj (hc.symm.trans hc')]
      · intro hreaped
        have howned := hs.owned p c hc
        have holds : 0 < s.calls.countP (ProcessCall.holds p) :=
          List.countP_pos_iff.mpr ⟨_, hlost, decide_eq_true rfl⟩
        rw [if_pos hreaped] at howned
        omega

end AdbControl
