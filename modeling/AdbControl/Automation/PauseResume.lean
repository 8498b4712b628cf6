import AdbControl.Automation.Persistence

namespace AdbControl.Automation

open Framework

/-- The channel that a wait waits for. -/
def ExecutePc.channel : ExecutePc → Option Nat
  | .waiting _ generation => some generation
  | _ => none

/-- The call is to bring the status to the flag that is set, or to clear the flag. -/
def Call.mendsSet : Call → Bool
  | ⟨.pause, .transitioning⟩ | ⟨_, .undoing _⟩ | ⟨.resume, .entered⟩ => true
  | _ => false

/-- The call is to take the status out of its pause, or to set the flag that is clear. -/
def Call.mendsClear : Call → Bool
  | ⟨.resume, .transitioning⟩ | ⟨.stop, .transitioning⟩ | ⟨.pause, .entered⟩
  | ⟨.stop, .entered⟩ => true
  | _ => false

theorem Call.mendsSet_iff {call : Call} : call.mendsSet = true ↔
    call.operation = .pause ∧ call.pc = .transitioning ∨ (∃ e, call.pc = .undoing e) ∨
      call.operation = .resume ∧ call.pc = .entered := by
  obtain ⟨operation, pc⟩ := call
  cases operation <;> cases pc <;> simp [mendsSet]

theorem Call.mendsClear_iff {call : Call} : call.mendsClear = true ↔
    call.operation ≠ .pause ∧ call.pc = .transitioning ∨
      call.operation ≠ .resume ∧ call.pc = .entered := by
  obtain ⟨operation, pc⟩ := call
  cases operation <;> cases pc <;> simp [mendsClear]

theorem Call.mends_in_progress {call : Call} (h : call.mendsSet = true ∨ call.mendsClear = true) :
    call.pc.isReturned = false := by
  obtain ⟨operation, pc⟩ := call
  cases pc with
  | returned result =>
    rcases h with h | h
    · cases operation <;> cases h
    · cases operation <;> cases h
  | _ => rfl

/-- How many steps a call has before it at most -/
def CallPc.ahead : CallPc → Nat
  | .entered => 4
  | .transitioning => 3
  | .saving _ => 2
  | .undoing _ | .cancelling => 1
  | .returned _ => 0

namespace RunState

/-- No call of `Control` is in progress. -/
def Quiet (r : RunState) : Prop :=
  ∀ (k : Nat) (call : Call), r.calls[k]? = some call → call.pc.isReturned = true

/-- `wait` waits for the channel that is still to be closed, in a run that is not cancelled. -/
def Blocked (r : RunState) : Prop :=
  r.execute.channel = some r.resumed ∧ r.cancelled = false

/-- The flag says whether the run is paused, and where it does not, `execute` is not held back. -/
structure Consistent (r : RunState) : Prop where
  flag : r.Quiet → (r.paused = true ↔ r.run.status = .paused)
  awake : r.paused = false → ¬r.Blocked

def MendsSet (r : RunState) : Prop :=
  ∃ (k : Nat) (call : Call), r.calls[k]? = some call ∧ call.mendsSet = true

def MendsClear (r : RunState) : Prop :=
  ∃ (k : Nat) (call : Call), r.calls[k]? = some call ∧ call.mendsClear = true

/-- The status to which the next step of a thread is to take the run. -/
def next? (r : RunState) : Thread → Option RunStatus
  | .execute => if r.execute = .starting then some .running else r.execute.end?
  | .call k =>
    match r.calls[k]? with
    | some ⟨operation, .transitioning⟩ => some operation.status
    | _ => none

/-- The thread is a pause that has failed and takes its flag back with its next step. -/
def undoing (r : RunState) : Thread → Bool
  | .execute => false
  | .call k =>
    match r.calls[k]? with
    | some ⟨_, .undoing _⟩ => true
    | _ => false

/-- What a step of a thread must meet for the flag and the status to stay in step. -/
structure KeepsInStep (r : RunState) (thread : Thread) : Prop where
  /-- the run is taken to its pause while the flag is set, or a call is to mend that it is clear -/
  pauses : r.next? thread = some .paused → transitions r.run.status .paused = true →
    r.paused = true ∨ r.MendsClear
  /-- the run is taken out of its pause while the flag is clear, or a call is to mend that it is
  set -/
  leaves : ∀ next ∈ r.next? thread, r.run.status = .paused → transitions .paused next = true →
    r.paused = false ∨ r.MendsSet
  /-- a pause that has failed takes its flag back in a run that is not paused and does not wait -/
  undoes : r.undoing thread = true → (r.run.status = .paused → r.MendsClear) ∧ ¬r.Blocked

/-- A call that answers `P` is found among all calls. -/
theorem exists_call_iff {P : Call → Prop} {r : RunState} :
    (∃ call ∈ r.calls.values, P call) ↔ ∃ (k : Nat) (call : Call), r.calls[k]? = some call ∧ P call := by
  constructor
  · intro h
    obtain ⟨call, hmem, hcall⟩ := h
    obtain ⟨k, hk⟩ := (Keyed.mem_values_iff _ _).mp hmem
    exact ⟨k, call, hk, hcall⟩
  · intro h
    obtain ⟨k, call, hk, hcall⟩ := h
    exact ⟨call, (Keyed.mem_values_iff _ _).mpr ⟨k, hk⟩, hcall⟩

instance (r : RunState) : Decidable r.MendsSet :=
  decidable_of_iff (∃ call ∈ r.calls.values, call.mendsSet = true) exists_call_iff

instance (r : RunState) : Decidable r.MendsClear :=
  decidable_of_iff (∃ call ∈ r.calls.values, call.mendsClear = true) exists_call_iff

instance (r : RunState) : Decidable r.Blocked :=
  inferInstanceAs (Decidable (_ ∧ _))

theorem keepsInStep_iff {r : RunState} {thread : Thread} :
    ((r.next? thread = some .paused → transitions r.run.status .paused = true →
      r.paused = true ∨ r.MendsClear) ∧
    (∀ next ∈ r.next? thread, r.run.status = .paused → transitions .paused next = true →
      r.paused = false ∨ r.MendsSet) ∧
    (r.undoing thread = true → (r.run.status = .paused → r.MendsClear) ∧ ¬r.Blocked)) ↔
      r.KeepsInStep thread :=
  ⟨fun h => ⟨h.1, h.2.1, h.2.2⟩, fun h => ⟨h.pauses, h.leaves, h.undoes⟩⟩

instance (r : RunState) (thread : Thread) : Decidable (r.KeepsInStep thread) :=
  decidable_of_iff _ keepsInStep_iff

/-- What holds of a run at any time: the flag and the status differ only where a call is to bring
them together. -/
structure InStep (r : RunState) : Prop where
  set : r.paused = true → r.run.status ≠ .paused → r.MendsSet
  clear : r.paused = false → r.run.status = .paused → r.MendsClear
  awake : r.paused = false → ¬r.Blocked
  generation : ∀ generation, r.execute.channel = some generation → generation ≤ r.resumed

variable {r r' : RunState} {now k : Nat} {ok : Bool} {thread : Thread}

theorem InStep.consistent (h : r.InStep) : r.Consistent := by
  refine ⟨?_, h.awake⟩
  intro hquiet
  constructor
  · intro hpaused
    by_contra hstatus
    obtain ⟨k, call, hcall, hmends⟩ := h.set hpaused hstatus
    have returned := hquiet k call hcall
    rw [Call.mends_in_progress (Or.inl hmends)] at returned
    cases returned
  · intro hstatus
    by_contra hpaused
    obtain ⟨k, call, hcall, hmends⟩ := h.clear (Bool.eq_false_iff.mpr hpaused) hstatus
    have returned := hquiet k call hcall
    rw [Call.mends_in_progress (Or.inr hmends)] at returned
    cases returned

/-- A thread changes the status only where its next step takes it. -/
theorem go_status (r : RunState) (now : Nat) (ok : Bool) (thread : Thread) :
    (r.go now ok thread).run.status = r.run.status ∨
    ∃ next, r.next? thread = some next ∧ transitions r.run.status next = true ∧
      (r.go now ok thread).run.status = next := by
  have execute {r' : RunState} (h : r.Advances now ok r') :
      r'.run.status = r.run.status ∨ ∃ next, r.next? .execute = some next ∧
        transitions r.run.status next = true ∧ r'.run.status = next := by
    cases h with
    | starts hpc hyes => exact Or.inr ⟨_, if_pos hpc, hyes, rfl⟩
    | @saves next hend hyes =>
      have hpc : r.execute ≠ .starting := by
        intro hpc
        rw [hpc] at hend
        cases hend
      exact Or.inr ⟨next, (if_neg hpc).trans hend, hyes, rfl⟩
    | _ => exact Or.inl rfl
  have call {k : Nat} {r' : RunState} (h : r.CallAdvances now ok k r') :
      r'.run.status = r.run.status ∨ ∃ next, r.next? (.call k) = some next ∧
        transitions r.run.status next = true ∧ r'.run.status = next := by
    cases h with
    | @moves call hcall hpc hyes =>
      refine Or.inr ⟨_, ?_, hyes, rfl⟩
      obtain ⟨operation, pc⟩ := call
      subst hpc
      rw [next?, hcall]
    | _ => exact Or.inl rfl
  cases thread with
  | execute => exact execute (r.stepExecute_advances now ok)
  | call k => exact call (r.stepCall_advances now k ok)

/-- What a call does to the flag: nothing, a pause or a resume that enters turns it over, or a pause
takes it back. -/
inductive FlagAdvances (r : RunState) (k : Nat) (r' : RunState) : Prop
  | keeps (hpaused : r'.paused = r.paused) (hresumed : r'.resumed = r.resumed)
  | sets (hold : r.paused = false) (hnew : r'.paused = true) (hresumed : r'.resumed = r.resumed)
    (hcall : r'.calls[k]? = some ⟨.pause, .transitioning⟩)
  | clears (hold : r.paused = true) (hnew : r'.paused = false)
    (hresumed : r'.resumed = r.resumed + 1) (hcall : r'.calls[k]? = some ⟨.resume, .transitioning⟩)
  | undoes {call : Call} {e : AppError} (hcall : r.calls[k]? = some call) (hpc : call.pc = .undoing e)
    (hnew : r'.paused = false) (hresumed : r'.resumed = r.resumed) (hstatus : r'.run = r.run)

theorem stepCall_flag (r : RunState) (now k : Nat) (ok : Bool) :
    r.FlagAdvances k (r.stepCall now k ok) := by
  unfold stepCall
  cases hcall : r.calls[k]? with
  | none => exact .keeps rfl rfl
  | some call =>
    cases hpc : call.pc with
    | entered =>
      simp only [hpc]
      cases hop : call.operation with
      | pause =>
        simp only
        split_ifs with hpaused
        · exact .keeps rfl rfl
        · exact .sets (Bool.eq_false_iff.mpr hpaused) rfl rfl (by simp [setCall, hop])
      | resume =>
        simp only
        split_ifs with hpaused
        · exact .clears hpaused rfl rfl (by simp [setCall, hop])
        · exact .keeps rfl rfl
      | stop => exact .keeps rfl rfl
    | transitioning =>
      simp only [hpc]
      split <;> exact .keeps rfl rfl
    | saving snapshot =>
      simp only [hpc]
      exact .keeps rfl rfl
    | undoing e =>
      simp only [hpc]
      exact .undoes hcall hpc rfl rfl rfl
    | cancelling =>
      simp only [hpc]
      exact .keeps rfl rfl
    | returned result =>
      simp only [hpc]
      exact .keeps rfl rfl

/-- The transition of a call has its status, or is refused. -/
theorem stepCall_transitioning {call : Call} (hcall : r.calls[k]? = some call)
    (hpc : call.pc = .transitioning) :
    (r.stepCall now k ok).run.status = call.operation.status ∨
      transitions r.run.status call.operation.status = false ∧
        r.stepCall now k ok =
          r.setCall k call (Operation.refused call.operation stateInvalid) := by
  unfold stepCall
  simp only [hcall, hpc]
  rcases transitionRun_cases r.run now call.operation.status with
    ⟨he, hsame⟩ | ⟨he, -, hno⟩ | ⟨he, -⟩
  · rw [he]
    exact Or.inl hsame
  · rw [he]
    exact Or.inr ⟨hno, rfl⟩
  · rw [he]
    exact Or.inl rfl

/-- A call that is to mend a set flag is still there after the step of a call, or has done so. -/
theorem MendsSet.stepCall (h : r.MendsSet) (now k : Nat) (ok : Bool) :
    (r.stepCall now k ok).MendsSet ∨ (r.stepCall now k ok).run.status = .paused ∨
      (r.stepCall now k ok).paused = false := by
  obtain ⟨j, call, hcall, hmends⟩ := h
  by_cases hjk : j = k
  · subst hjk
    rcases Call.mendsSet_iff.mp hmends with ⟨hop, hpc⟩ | ⟨e, hpc⟩ | ⟨hop, hpc⟩
    · rcases @stepCall_transitioning r now j ok call hcall hpc with hstatus | ⟨-, hrefused⟩
      · rw [hop] at hstatus
        exact Or.inr (Or.inl hstatus)
      · rw [hrefused, hop]
        refine Or.inl ⟨j, ⟨call.operation, .undoing stateInvalid⟩, ?_, Call.mendsSet_iff.mpr ?_⟩
        · simp [setCall, Operation.refused]
        · exact Or.inr (Or.inl ⟨_, rfl⟩)
    · unfold RunState.stepCall
      simp only [hcall, hpc]
      exact Or.inr (Or.inr trivial)
    · unfold RunState.stepCall
      simp only [hcall, hpc, hop]
      refine Or.inr (Or.inr ?_)
      split_ifs with hpaused
      · rfl
      · exact Bool.eq_false_iff.mpr hpaused
  · refine Or.inl ⟨j, call, ?_, hmends⟩
    rw [(r.stepCall_advances now k ok).others hjk, hcall]

/-- A call that is to mend a clear flag is still there after the step of a call, or has done so. -/
theorem MendsClear.stepCall (h : r.MendsClear) (now k : Nat) (ok : Bool) :
    (r.stepCall now k ok).MendsClear ∨ (r.stepCall now k ok).run.status ≠ .paused ∨
      (r.stepCall now k ok).paused = true := by
  obtain ⟨j, call, hcall, hmends⟩ := h
  by_cases hjk : j = k
  · subst hjk
    rcases Call.mendsClear_iff.mp hmends with ⟨hop, hpc⟩ | ⟨hop, hpc⟩
    · have away : call.operation.status ≠ .paused ∧
          transitions .paused call.operation.status = true := by
        revert hop
        cases call.operation <;> decide
      refine Or.inr (Or.inl ?_)
      rcases @stepCall_transitioning r now j ok call hcall hpc with hstatus | ⟨hno, hrefused⟩
      · rw [hstatus]
        exact away.1
      · rw [hrefused]
        show r.run.status ≠ .paused
        intro hpaused
        rw [hpaused, away.2] at hno
        cases hno
    · unfold RunState.stepCall
      simp only [hcall, hpc]
      cases hoperation : call.operation with
      | resume => exact (hop hoperation).elim
      | stop => exact Or.inl ⟨j, ⟨.stop, .transitioning⟩, by simp [setCall, hoperation], rfl⟩
      | pause =>
        refine Or.inr (Or.inr ?_)
        simp only
        split_ifs with hpaused
        · exact hpaused
        · rfl
  · refine Or.inl ⟨j, call, ?_, hmends⟩
    rw [(r.stepCall_advances now k ok).others hjk, hcall]

theorem InStep.begin (h : r.InStep) (operation : Operation) (hk : k ∉ r.calls) :
    (r.begin k operation).InStep := by
  have others {j : Nat} {call : Call} (hcall : r.calls[j]? = some call) :
      (r.begin k operation).calls[j]? = some call := by
    have hjk : j ≠ k := by
      rintro rfl
      exact hk ((Keyed.mem_iff_lookup _ _).mpr ⟨call, hcall⟩)
    simp [RunState.begin, hjk, hcall]
  refine ⟨?_, ?_, h.awake, h.generation⟩
  · intro hpaused hstatus
    obtain ⟨j, call, hcall, hpc⟩ := h.set hpaused hstatus
    exact ⟨j, call, others hcall, hpc⟩
  · intro hpaused hstatus
    obtain ⟨j, call, hcall, hpc⟩ := h.clear hpaused hstatus
    exact ⟨j, call, others hcall, hpc⟩

/-- Where the status that a step leaves differs from the flag before it, a call was to mend that. -/
theorem InStep.status (h : r.InStep) (hkeeps : r.KeepsInStep thread) (now : Nat) (ok : Bool) :
    (r.paused = true → (r.go now ok thread).run.status ≠ .paused → r.MendsSet) ∧
      (r.paused = false → (r.go now ok thread).run.status = .paused → r.MendsClear) := by
  rcases r.go_status now ok thread with hsame | ⟨next, hnext, hyes, hstatus⟩
  · rw [hsame]
    exact ⟨h.set, h.clear⟩
  · rw [hstatus]
    constructor
    · intro hpaused hne
      by_cases hold : r.run.status = .paused
      · rw [hold] at hyes
        rcases hkeeps.leaves next hnext hold hyes with hclear | hmends
        · rw [hpaused] at hclear
          cases hclear
        · exact hmends
      · exact h.set hpaused hold
    · intro hpaused he
      subst he
      rcases hkeeps.pauses hnext hyes with hset | hmends
      · rw [hpaused] at hset
        cases hset
      · exact hmends

theorem CallAdvances.cancelled (h : r.CallAdvances now ok k r') (hcancelled : r.cancelled = true) :
    r'.cancelled = true := by
  cases h with
  | cancels => rfl
  | _ => exact hcancelled

/-- A call that keeps the channel blocks no wait. -/
theorem CallAdvances.blocked (h : r.CallAdvances now ok k r') (hresumed : r'.resumed = r.resumed)
    (hblocked : r'.Blocked) : r.Blocked := by
  obtain ⟨hwait, hcancelled⟩ := hblocked
  rw [h.execute, hresumed] at hwait
  refine ⟨hwait, ?_⟩
  by_contra hne
  rw [h.cancelled (Bool.not_eq_false _ ▸ hne)] at hcancelled
  cases hcancelled

/-- The mend of a set flag is still to come where the flag is set after the step of a call, and the
run is not paused. -/
theorem MendsSet.kept (h : r.MendsSet) (hpaused : (r.stepCall now k ok).paused = true)
    (hstatus : (r.stepCall now k ok).run.status ≠ .paused) : (r.stepCall now k ok).MendsSet := by
  rcases h.stepCall now k ok with hmends | hstatus' | hpaused'
  · exact hmends
  · exact (hstatus hstatus').elim
  · rw [hpaused] at hpaused'
    cases hpaused'

theorem MendsClear.kept (h : r.MendsClear) (hpaused : (r.stepCall now k ok).paused = false)
    (hstatus : (r.stepCall now k ok).run.status = .paused) : (r.stepCall now k ok).MendsClear := by
  rcases h.stepCall now k ok with hmends | hstatus' | hpaused'
  · exact hmends
  · exact (hstatus' hstatus).elim
  · rw [hpaused] at hpaused'
    cases hpaused'

theorem undoing_call {call : Call} {e : AppError} (hcall : r.calls[k]? = some call)
    (hpc : call.pc = .undoing e) : r.undoing (.call k) = true := by
  obtain ⟨operation, pc⟩ := call
  subst hpc
  rw [undoing, hcall]

theorem InStep.stepCall (h : r.InStep) (hkeeps : r.KeepsInStep (.call k)) (now : Nat) (ok : Bool) :
    (r.stepCall now k ok).InStep := by
  obtain ⟨hset, hclear⟩ := h.status hkeeps now ok
  have hundoes := hkeeps.undoes
  have advances := r.stepCall_advances now k ok
  have mendsSet := @MendsSet.kept r now k ok
  have mendsClear := @MendsClear.kept r now k ok
  have flag := r.stepCall_flag now k ok
  change _ → (r.stepCall now k ok).run.status ≠ _ → _ at hset
  change _ → (r.stepCall now k ok).run.status = _ → _ at hclear
  generalize r.stepCall now k ok = r' at *
  have generation (hresumed : r.resumed ≤ r'.resumed) (generation : Nat)
      (hwait : r'.execute.channel = some generation) : generation ≤ r'.resumed := by
    rw [advances.execute] at hwait
    have := h.generation generation hwait
    omega
  cases flag with
  | keeps hpaused hresumed =>
    refine ⟨?_, ?_, ?_, generation hresumed.ge⟩
    · intro hnew hstatus
      exact mendsSet (hset (hpaused ▸ hnew) hstatus) hnew hstatus
    · intro hnew hstatus
      exact mendsClear (hclear (hpaused ▸ hnew) hstatus) hnew hstatus
    · intro hnew hblocked
      exact h.awake (hpaused ▸ hnew) (advances.blocked hresumed hblocked)
  | sets hold hnew hresumed hcall =>
    refine ⟨?_, ?_, ?_, generation hresumed.ge⟩
    · intro _ _
      exact ⟨k, _, hcall, rfl⟩
    · intro hfalse
      rw [hnew] at hfalse
      cases hfalse
    · intro hfalse
      rw [hnew] at hfalse
      cases hfalse
  | clears hold hnew hresumed hcall =>
    refine ⟨?_, ?_, ?_, generation (by omega)⟩
    · intro htrue
      rw [hnew] at htrue
      cases htrue
    · intro _ _
      exact ⟨k, _, hcall, rfl⟩
    · -- no wait is for the channel that is new
      intro _ hblocked
      obtain ⟨hwait, -⟩ := hblocked
      rw [advances.execute] at hwait
      have := h.generation _ hwait
      omega
  | @undoes call e hcall hpc hnew hresumed hrun =>
    obtain ⟨hmends, hfree⟩ := hundoes (undoing_call hcall hpc)
    refine ⟨?_, ?_, ?_, generation hresumed.ge⟩
    · intro htrue
      rw [hnew] at htrue
      cases htrue
    · intro _ hstatus
      exact mendsClear (hmends (hrun ▸ hstatus)) hnew hstatus
    · intro _ hblocked
      exact hfree (advances.blocked hresumed hblocked)

theorem Advances.control (h : r.Advances now ok r') :
    r'.paused = r.paused ∧ r'.resumed = r.resumed ∧ (r.cancelled = true → r'.cancelled = true) := by
  cases h with
  | drops => exact ⟨rfl, rfl, fun _ => rfl⟩
  | _ => exact ⟨rfl, rfl, id⟩

theorem turn_channel (r : RunState) (index : Nat) : (r.turn index).channel = none := by
  unfold turn
  split_ifs <;> rfl

/-- A wait is gone into for the present channel, while the flag is set. -/
theorem stepExecute_channel {generation : Nat}
    (hwait : (r.stepExecute now ok).execute.channel = some generation) :
    r.execute.channel = some generation ∨ generation = r.resumed ∧ r.paused = true := by
  have advances := r.stepExecute_advances now ok
  generalize he : r.stepExecute now ok = r' at advances hwait
  cases advances with
  | runs | started | updated =>
    rw [turn_channel] at hwait
    cases hwait
  | rests => exact Or.inl hwait
  | looks hpc =>
    right
    unfold stepExecute at he
    simp only [hpc] at he
    rw [← he] at hwait
    by_cases hpaused : r.paused = true
    · simp only [if_pos hpaused, ExecutePc.channel, Option.some.injEq] at hwait
      exact ⟨hwait.symm, hpaused⟩
    · simp only [if_neg hpaused] at hwait
      cases hwait
  | @acted _ pc _ hpc =>
    change pc.channel = _ at hwait
    rcases hpc with hpc | hpc <;> rw [hpc] at hwait <;> cases hwait
  | _ => cases hwait

theorem InStep.stepExecute (h : r.InStep) (hkeeps : r.KeepsInStep .execute) (now : Nat) (ok : Bool) :
    (r.stepExecute now ok).InStep := by
  obtain ⟨hset, hclear⟩ := h.status hkeeps now ok
  have advances := r.stepExecute_advances now ok
  have waits := fun generation => @stepExecute_channel r now ok generation
  change _ → (r.stepExecute now ok).run.status ≠ _ → _ at hset
  change _ → (r.stepExecute now ok).run.status = _ → _ at hclear
  generalize r.stepExecute now ok = r' at *
  obtain ⟨hpaused, hresumed, hcancelled⟩ := advances.control
  refine ⟨?_, ?_, ?_, ?_⟩
  · intro hnew hstatus
    obtain ⟨k, call, hcall, hpc⟩ := hset (hpaused ▸ hnew) hstatus
    exact ⟨k, call, advances.calls ▸ hcall, hpc⟩
  · intro hnew hstatus
    obtain ⟨k, call, hcall, hpc⟩ := hclear (hpaused ▸ hnew) hstatus
    exact ⟨k, call, advances.calls ▸ hcall, hpc⟩
  · intro hnew hblocked
    obtain ⟨hwait, hrunning⟩ := hblocked
    rw [hpaused] at hnew
    rcases waits _ hwait with hold | ⟨-, hset⟩
    · rw [hresumed] at hold
      refine h.awake hnew ⟨hold, ?_⟩
      by_contra hne
      rw [hcancelled (Bool.not_eq_false _ ▸ hne)] at hrunning
      cases hrunning
    · rw [hnew] at hset
      cases hset
  · intro generation hwait
    rw [hresumed]
    rcases waits generation hwait with hold | ⟨he, -⟩
    · exact h.generation generation hold
    · exact he.le

theorem InStep.go (h : r.InStep) (hkeeps : r.KeepsInStep thread) (now : Nat) (ok : Bool) :
    (r.go now ok thread).InStep := by
  cases thread with
  | execute => exact h.stepExecute hkeeps now ok
  | call k => exact h.stepCall hkeeps now ok

theorem inStep_fresh (id taskID : String) (actions : List String) :
    (RunState.fresh id taskID actions).InStep := by
  refine ⟨nofun, nofun, ?_, nofun⟩
  intro _ hblocked
  cases hblocked.1

/-- The flag and the status differ, and no call is to mend that. -/
def Broken (r : RunState) : Prop :=
  r.paused = true ∧ r.run.status ≠ .paused ∧ ¬r.MendsSet ∨
    r.paused = false ∧ r.run.status = .paused ∧ ¬r.MendsClear

/-- A call that mends nothing has been put in the place of one. -/
theorem mends_insert {P : Call → Bool} {call : Call} {calls : Keyed Nat Call}
    (hcall : P call = false)
    (h : ∃ (j : Nat) (other : Call), (calls.insert k call)[j]? = some other ∧ P other = true) :
    ∃ (j : Nat) (other : Call), calls[j]? = some other ∧ P other = true := by
  obtain ⟨j, other, hj, hother⟩ := h
  rcases Keyed.lookup_insert_cases hj with ⟨-, he⟩ | ⟨-, hj⟩
  · rw [he, hcall] at hother
    cases hother
  · exact ⟨j, other, hj, hother⟩

theorem transitionRun_moves {run : Run} {next : RunStatus}
    (hyes : transitions run.status next = true) :
    transitionRun run now next = .ok (some (run.moved now next)) := by
  rcases transitionRun_cases run now next with ⟨-, hsame⟩ | ⟨-, -, hno⟩ | ⟨he, -⟩
  · have self : transitions next next = false := by
      cases next <;> rfl
    rw [hsame, self] at hyes
    cases hyes
  · rw [hyes] at hno
    cases hno
  · exact he

theorem stepExecute_moves {next : RunStatus} (hnext : r.next? .execute = some next)
    (hyes : transitions r.run.status next = true) :
    ∃ pc, r.stepExecute now ok = { r with run := r.run.moved now next, execute := pc } := by
  have moves := @transitionRun_moves now r.run next hyes
  unfold next? at hnext
  split_ifs at hnext with hstarting
  · obtain rfl := Option.some.inj hnext
    unfold stepExecute
    rw [hstarting]
    simp only [moves]
    exact ⟨_, rfl⟩
  · have hlast : r.stepExecute now ok = r.last now next := by
      unfold stepExecute
      revert hnext
      cases r.execute <;> simp [ExecutePc.end?] <;> rintro rfl <;> rfl
    rw [hlast, last, moves]
    exact ⟨_, rfl⟩

/-- A transition that is to come is made by the next step, which mends nothing. -/
theorem go_moves {next : RunStatus} (hnext : r.next? thread = some next)
    (hyes : transitions r.run.status next = true) :
    (r.go now ok thread).run.status = next ∧ (r.go now ok thread).paused = r.paused ∧
      ((r.go now ok thread).MendsSet → r.MendsSet) ∧
      ((r.go now ok thread).MendsClear → r.MendsClear) := by
  cases thread with
  | execute =>
    obtain ⟨pc, he⟩ := @stepExecute_moves r now ok next hnext hyes
    rw [go, he]
    exact ⟨rfl, rfl, id, id⟩
  | call k =>
    simp only [next?] at hnext
    split at hnext
    · next operation hcall =>
      obtain rfl := Option.some.inj hnext
      have he : r.stepCall now k ok =
          { r.setCall k ⟨operation, .transitioning⟩ (.saving (r.run.moved now operation.status)) with
            run := r.run.moved now operation.status } := by
        unfold stepCall
        simp only [hcall, transitionRun_moves hyes]
      rw [go, he]
      refine ⟨rfl, rfl, mends_insert ?_, mends_insert ?_⟩
      · cases operation <;> rfl
      · cases operation <;> rfl
    · cases hnext

/-- A step that does not meet the condition leaves the run broken, or held back while the flag is
clear. -/
theorem broken_go (hkeeps : ¬r.KeepsInStep thread) (now : Nat) (ok : Bool) :
    (r.go now ok thread).Broken ∨
      (r.go now ok thread).paused = false ∧ (r.go now ok thread).Blocked := by
  rw [← keepsInStep_iff] at hkeeps
  simp only [not_and_or, Classical.not_imp, not_forall, not_or] at hkeeps
  rcases hkeeps with ⟨hnext, hyes, hpaused, hmends⟩ | ⟨next, hnext, hold, hyes, hpaused, hmends⟩ |
    ⟨hundoing, hundoes⟩
  · obtain ⟨hstatus, hsame, -, hclear⟩ := @go_moves r now ok thread _ hnext hyes
    refine Or.inl (Or.inr ⟨?_, hstatus, fun h => hmends (hclear h)⟩)
    rw [hsame]
    exact Bool.eq_false_iff.mpr hpaused
  · have hne : next ≠ .paused := by
      rintro rfl
      cases hyes
    rw [← hold] at hyes
    obtain ⟨hstatus, hsame, hset, -⟩ := @go_moves r now ok thread _ hnext hyes
    refine Or.inl (Or.inl ⟨?_, hstatus ▸ hne, fun h => hmends (hset h)⟩)
    rw [hsame]
    exact Bool.eq_true_of_not_eq_false hpaused
  · cases thread with
    | execute => cases hundoing
    | call k =>
      simp only [undoing] at hundoing
      split at hundoing
      · next operation e hcall =>
        have he : r.stepCall now k ok =
            { r.setCall k ⟨operation, .undoing e⟩ (.returned (.error e)) with paused := false } := by
          unfold stepCall
          simp only [hcall]
        rw [go, he]
        rcases hundoes with ⟨hstatus, hmends⟩ | hblocked
        · refine Or.inl (Or.inr ⟨rfl, hstatus, fun h => hmends (mends_insert ?_ h)⟩)
          cases operation <;> rfl
        · exact Or.inr ⟨rfl, not_not.mp hblocked⟩
      · cases hundoing

/-- A call takes the place of another: it mends nothing that is broken, and the status stays. -/
theorem Broken.put (h : r.Broken) {call : Call} {run : Run} {cancelled : Bool}
    (hset : call.mendsSet = false) (hclear : call.mendsClear = false ∨ r.paused = true)
    (hstatus : run.status = .paused ↔ r.run.status = .paused) :
    Broken { r with run, cancelled, calls := r.calls.insert k call } := by
  rcases h with ⟨hpaused, hne, hmends⟩ | ⟨hpaused, he, hmends⟩
  · exact Or.inl ⟨hpaused, mt hstatus.mp hne, fun h => hmends (mends_insert hset h)⟩
  · have hcall := hclear.resolve_right (by rw [hpaused]; exact nofun)
    exact Or.inr ⟨hpaused, hstatus.mpr he, fun h => hmends (mends_insert hcall h)⟩

/-- Of a broken run no call is one that mends. -/
theorem Broken.idle (h : r.Broken) {call : Call} (hcall : r.calls[k]? = some call) :
    (call.mendsSet = false ∨ r.paused = false ∧ r.run.status = .paused) ∧
      (call.mendsClear = false ∨ r.paused = true ∧ r.run.status ≠ .paused) := by
  rcases h with ⟨hpaused, hne, hmends⟩ | ⟨hpaused, he, hmends⟩
  · refine ⟨Or.inl (Bool.eq_false_iff.mpr ?_), Or.inr ⟨hpaused, hne⟩⟩
    exact fun hset => hmends ⟨k, call, hcall, hset⟩
  · refine ⟨Or.inr ⟨hpaused, he⟩, Or.inl (Bool.eq_false_iff.mpr ?_)⟩
    exact fun hclear => hmends ⟨k, call, hcall, hclear⟩

theorem Broken.transition (h : r.Broken) {operation : Operation}
    (hcall : r.calls[k]? = some ⟨operation, .transitioning⟩) (now : Nat) :
    (r.stepCall now k true).Broken := by
  obtain ⟨hset, hclear⟩ := h.idle hcall
  unfold RunState.stepCall
  simp only [hcall]
  rcases transitionRun_cases r.run now operation.status with
    ⟨he, -⟩ | ⟨he, hne, -⟩ | ⟨he, hyes⟩
  · rw [he]
    cases operation <;> exact h.put rfl (Or.inl rfl) Iff.rfl
  · rw [he]
    cases operation with
    | pause => exact (hne (hset.resolve_left nofun).2).elim
    | resume => exact h.put rfl (Or.inl rfl) Iff.rfl
    | stop => exact h.put rfl (Or.inl rfl) Iff.rfl
  · rw [he]
    cases operation with
    | pause =>
      rw [(hset.resolve_left nofun).2] at hyes
      cases hyes
    | resume =>
      have hstatus := (hclear.resolve_left nofun).2
      exact h.put rfl (Or.inl rfl) (iff_of_false nofun hstatus)
    | stop =>
      have hstatus := (hclear.resolve_left nofun).2
      exact h.put rfl (Or.inl rfl) (iff_of_false nofun hstatus)

/-- The calls in progress do not mend a run that is broken, if their saves succeed. -/
theorem Broken.stepCall (h : r.Broken) (now k : Nat) : (r.stepCall now k true).Broken := by
  cases hcall : r.calls[k]? with
  | none =>
    unfold RunState.stepCall
    simp only [hcall]
    exact h
  | some call =>
    obtain ⟨operation, pc⟩ := call
    obtain ⟨hset, hclear⟩ := h.idle hcall
    cases pc with
    | transitioning => exact h.transition hcall now
    | entered =>
      unfold RunState.stepCall
      simp only [hcall]
      cases operation with
      | pause =>
        simp only [if_pos (hclear.resolve_left nofun).1]
        exact h.put rfl (Or.inl rfl) Iff.rfl
      | resume =>
        simp only [(hset.resolve_left nofun).1]
        exact h.put rfl (Or.inl rfl) Iff.rfl
      | stop => exact h.put rfl (Or.inr (hclear.resolve_left nofun).1) Iff.rfl
    | saving snapshot =>
      unfold RunState.stepCall
      simp only [hcall]
      cases operation <;> exact h.put rfl (Or.inl rfl) Iff.rfl
    | undoing e =>
      obtain ⟨hpaused, -⟩ := hset.resolve_left (by cases operation <;> nofun)
      have same : r.stepCall now k true =
          r.setCall k ⟨operation, .undoing e⟩ (.returned (.error e)) := by
        unfold RunState.stepCall
        simp only [hcall, setCall, ← hpaused]
      rw [same]
      exact h.put (by cases operation <;> rfl) (Or.inl (by cases operation <;> rfl)) Iff.rfl
    | cancelling =>
      unfold RunState.stepCall
      simp only [hcall]
      cases operation <;> exact h.put rfl (Or.inl rfl) Iff.rfl
    | returned result =>
      unfold RunState.stepCall
      simp only [hcall]
      exact h

/-- The steps of calls whose saves succeed, one after the other -/
def finish (r : RunState) (now : Nat) (ks : List Nat) : RunState :=
  ks.foldl (fun r k => r.stepCall now k true) r

theorem ahead_insert {call : Call} {calls : Keyed Nat Call} {bound : Nat}
    (hahead : call.pc.ahead ≤ bound) :
    ∃ call', (calls.insert k call)[k]? = some call' ∧ call'.pc.ahead ≤ bound :=
  ⟨call, by simp, hahead⟩

theorem stepCall_ahead {call : Call} (hcall : r.calls[k]? = some call) :
    ∃ call', (r.stepCall now k true).calls[k]? = some call' ∧
      call'.pc.ahead ≤ call.pc.ahead - 1 := by
  obtain ⟨operation, pc⟩ := call
  unfold stepCall
  simp only [hcall]
  cases pc with
  | entered =>
    cases operation with
    | pause =>
      simp only
      split_ifs <;> exact ahead_insert (by decide)
    | resume =>
      simp only
      split_ifs <;> exact ahead_insert (by decide)
    | stop => exact ahead_insert (by decide)
  | transitioning =>
    rcases transitionRun_cases r.run now operation.status with ⟨he, -⟩ | ⟨he, -, -⟩ | ⟨he, -⟩
    · simp only [he]
      cases operation <;> exact ahead_insert (by decide)
    · simp only [he]
      cases operation <;> exact ahead_insert (by simp [Operation.refused, CallPc.ahead])
    · simp only [he]
      exact ahead_insert (by simp [CallPc.ahead])
  | saving snapshot => cases operation <;> exact ahead_insert (by simp [Operation.done, CallPc.ahead])
  | undoing e => exact ahead_insert (by simp [CallPc.ahead])
  | cancelling => exact ahead_insert (by simp [CallPc.ahead])
  | returned result => exact ⟨_, hcall, by simp [CallPc.ahead]⟩

/-- Each step of a call brings it nearer to its end, and no other does anything to it. -/
theorem finish_ahead (ks : List Nat) {call : Call} (hcall : r.calls[k]? = some call) :
    ∃ call', (r.finish now ks).calls[k]? = some call' ∧
      call'.pc.ahead ≤ call.pc.ahead - ks.count k := by
  induction ks generalizing r call with
  | nil => exact ⟨call, hcall, by simp⟩
  | cons j ks ih =>
    rw [finish, List.foldl_cons]
    by_cases hjk : j = k
    · subst hjk
      obtain ⟨call', hcall', hahead⟩ := @stepCall_ahead r now j call hcall
      obtain ⟨last, hlast, hahead'⟩ := ih hcall'
      refine ⟨last, hlast, ?_⟩
      rw [List.count_cons_self]
      omega
    · have hother := (r.stepCall_advances now j true).others (Ne.symm hjk)
      obtain ⟨last, hlast, hahead⟩ := ih (hother.trans hcall)
      refine ⟨last, hlast, ?_⟩
      rw [List.count_cons_of_ne hjk]
      exact hahead

theorem finish_none (ks : List Nat) (hcall : r.calls[k]? = none) :
    (r.finish now ks).calls[k]? = none := by
  induction ks generalizing r with
  | nil => exact hcall
  | cons j ks ih =>
    rw [finish, List.foldl_cons]
    apply ih
    by_cases hjk : j = k
    · subst hjk
      unfold stepCall
      simp only [hcall]
    · rw [(r.stepCall_advances now j true).others (Ne.symm hjk), hcall]

/-- The steps after which every call has returned -/
def endings (r : RunState) : List Nat := r.calls.keys.flatMap (List.replicate 4)

theorem quiet_endings (r : RunState) (now : Nat) : (r.finish now r.endings).Quiet := by
  intro k call hcall
  cases hold : r.calls[k]? with
  | none =>
    rw [finish_none r.endings hold] at hcall
    cases hcall
  | some old =>
    obtain ⟨call', hcall', hahead⟩ := @finish_ahead r now k r.endings old hold
    obtain rfl := Option.some.inj (hcall.symm.trans hcall')
    have hcount : 4 ≤ r.endings.count k := by
      have hmem : k ∈ r.calls.keys := by
        rw [Std.ExtTreeMap.mem_keys]
        exact (Keyed.mem_iff_lookup _ _).mpr ⟨old, hold⟩
      have hsub := (List.singleton_sublist.mpr hmem).flatMap (List.replicate 4)
      have := hsub.count_le k
      simpa [endings] using this
    have hbound : old.pc.ahead ≤ 4 := by
      cases old.pc <;> simp [CallPc.ahead]
    have hzero : call.pc.ahead = 0 := by omega
    revert hzero
    cases call.pc <;> simp [CallPc.ahead, CallPc.isReturned]

theorem Broken.finish (h : r.Broken) (now : Nat) (ks : List Nat) : (r.finish now ks).Broken := by
  induction ks generalizing r with
  | nil => exact h
  | cons k ks ih => exact ih (h.stepCall now k)

/-- Once its calls have returned, a broken run is not consistent. -/
theorem Broken.not_consistent (h : r.Broken) (now : Nat) : ¬(r.finish now r.endings).Consistent := by
  intro hconsistent
  have agree := hconsistent.flag (r.quiet_endings now)
  rcases h.finish now r.endings with ⟨hpaused, hne, -⟩ | ⟨hpaused, he, -⟩
  · exact hne (agree.mp hpaused)
  · rw [agree.mpr he] at hpaused
    cases hpaused

end RunState

namespace ServiceState

/-- The step of a thread keeps the flag and the status of its run in step. -/
def KeepsInStep (s : ServiceState) : ServiceAct → Prop
  | .go n thread _ => ∀ r, s.runs[n]? = some r → r.KeepsInStep thread
  | _ => True

/-- From the start of the service on, where each step keeps the flag and the status of its run in
step, they agree in every run on which no call of `Control` is in progress, and no run whose flag
is clear is held back. -/
theorem pause_consistent {tasks : TaskStore} {rows : Keyed String Run} {acts : List ServiceAct}
    (h : Along (step tasks) KeepsInStep (start rows) acts) {n : Nat} {r : RunState}
    (hr : (run (step tasks) (start rows) acts).runs[n]? = some r) : r.Consistent := by
  have all : ∀ (n : Nat) (r : RunState),
      (run (step tasks) (start rows) acts).runs[n]? = some r → r.InStep := by
    refine run_invariant (fun s : ServiceState =>
      ∀ (n : Nat) (r : RunState), s.runs[n]? = some r → r.InStep) ?_ ?_ h
    · intro s act hs hkeeps
      apply runs_step act hs RunState.inStep_fresh (fun _ _ operation hr hk => hr.begin operation hk)
      intro n thread ok r hact hr hinstep
      subst hact
      exact hinstep.go (hkeeps r hr) s.now ok
    · intro n r hr
      simp [start] at hr
  exact (all n r hr).consistent

/-- Calls of a run go on one after the other, and their saves succeed. -/
theorem run_finish (tasks : TaskStore) {s : ServiceState} {n : Nat} {r : RunState}
    (hr : s.runs[n]? = some r) (ks : List Nat) :
    (run (step tasks) s (ks.map fun k => .go n (.call k) true)).runs[n]? =
      some (r.finish s.now ks) := by
  induction ks generalizing s r with
  | nil => exact hr
  | cons k ks ih =>
    have hgo : (step tasks s (.go n (.call k) true)).runs[n]? =
        some (r.stepCall s.now k true) := by
      simp [step, hr, RunState.go]
    have hnow : (step tasks s (.go n (.call k) true)).now = s.now := by
      simp [step, hr]
    rw [List.map_cons, run_cons, ih hgo, hnow]
    rfl

/-- No weaker condition does: after a step that does not meet it, the calls that are in progress can
leave a run that is not consistent. -/
theorem inconsistent_after {tasks : TaskStore} {rows : Keyed String Run} {acts : List ServiceAct}
    (h : ¬Along (step tasks) KeepsInStep (start rows) acts) :
    ∃ (pre post ends : List ServiceAct) (n : Nat) (r : RunState), acts = pre ++ post ∧
      (run (step tasks) (start rows) (pre ++ ends)).runs[n]? = some r ∧ ¬r.Consistent := by
  have hsplit := mt along_of_at h
  simp only [not_forall] at hsplit
  obtain ⟨pre, act, post, hacts, hkeeps⟩ := hsplit
  cases act with
  | go n thread ok =>
    simp only [KeepsInStep, not_forall] at hkeeps
    obtain ⟨r, hr, hkeeps⟩ := hkeeps
    have hgo : (run (step tasks) (start rows) (pre ++ [.go n thread ok])).runs[n]? =
        some (r.go (run (step tasks) (start rows) pre).now ok thread) := by
      simp [step, hr]
    rcases RunState.broken_go hkeeps (run (step tasks) (start rows) pre).now ok with
      hbroken | ⟨hpaused, hblocked⟩
    · have hend := run_finish tasks hgo
        (r.go (run (step tasks) (start rows) pre).now ok thread).endings
      rw [← run_append] at hend
      exact ⟨_, post, _, n, _, by simp [hacts], hend, hbroken.not_consistent _⟩
    · rw [← List.append_nil (pre ++ _)] at hgo
      refine ⟨_, post, [], n, _, by simp [hacts], hgo, ?_⟩
      exact fun hconsistent => hconsistent.awake hpaused hblocked
  | _ => exact (hkeeps trivial).elim

instance (s : ServiceState) (act : ServiceAct) : Decidable (s.KeepsInStep act) :=
  match act with
  | .go n thread _ => inferInstanceAs (Decidable (∀ r ∈ s.runs[n]?, r.KeepsInStep thread))
  | .elapse _ | .run _ _ _ | .control _ _ _ => instDecidableTrue

/-- The task starts, and a pause comes before its first action. -/
private def pausedAtStart (saved : Bool) : List ServiceAct :=
  .run 0 "t" (some (.replicate 8 0)) :: List.replicate 4 (.go 0 .execute true) ++
    [.control 0 "t:run-0000000000000000" "pause", .go 0 (.call 0) true, .go 0 (.call 0) true,
      .go 0 .execute true, .go 0 (.call 0) saved, .go 0 (.call 0) true]

theorem pause_consistent_saved :
    ∃ r, (run (step oneTask) (start ∅) (pausedAtStart true)).runs[0]? = some r ∧
      r.run.status = .paused ∧ r.paused = true ∧ r.Consistent := by
  have keeps : Along (step oneTask) KeepsInStep (start ∅) (pausedAtStart true) := by
    decide
  have paused : ((run (step oneTask) (start ∅) (pausedAtStart true)).runs[0]?.map
      (fun r => (r.run.status, r.paused))) = some (.paused, true) := by
    decide
  obtain ⟨r, hr, he⟩ := Option.map_eq_some_iff.mp paused
  rw [Prod.mk.injEq] at he
  exact ⟨r, hr, he.1, he.2, pause_consistent keeps hr⟩

/-- Where the row of the pause is not saved, the flag is clear in a run that stays paused, and
`execute` waits for a resumption that no call of `Control` can bring. -/
theorem failed_pause_wedges : ¬∀ (tasks : TaskStore) (rows : Keyed String Run)
    (acts : List ServiceAct) (n : Nat) (r : RunState),
    (run (step tasks) (start rows) acts).runs[n]? = some r → r.Consistent := by
  intro h
  have wedged : ((run (step oneTask) (start ∅) (pausedAtStart false)).runs[0]?.map
      (fun r => (r.paused, decide r.Blocked))) = some (false, true) := by
    decide
  obtain ⟨r, hr, he⟩ := Option.map_eq_some_iff.mp wedged
  rw [Prod.mk.injEq, decide_eq_true_eq] at he
  exact (h oneTask ∅ (pausedAtStart false) 0 r hr).awake he.1 he.2

end ServiceState

end AdbControl.Automation
