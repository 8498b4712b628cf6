import AdbControl.Automation.RunEnds

namespace AdbControl.Automation

open Framework

/-- The statuses that give a run the time of its finish. -/
def RunStatus.Terminal (status : RunStatus) : Prop :=
  status = .succeeded ∨ status = .failed ∨ status = .stopped ∨ status = .skipped

/-- Nothing leads out of a terminal status. -/
theorem RunStatus.Leads.terminal {status next : RunStatus} (h : status.Leads next)
    (hterminal : status.Terminal) : next = status := by
  rcases h with hsame | ⟨-, hyes⟩
  · exact hsame
  · revert hyes hterminal
    cases status <;> cases next <;> simp [transitions, RunStatus.Terminal]

/-- The action that `execute` is at, until its completion is counted. -/
def ExecutePc.action? : ExecutePc → Option Nat
  | .checking index | .waiting index _ | .unpaused index | .acting index | .updating index =>
    some index
  | _ => none

/-- The actions that are counted as completed at a place before the end. -/
def ExecutePc.counted : ExecutePc → Option Nat
  | .creating | .createSaving _ | .discarding | .discarded | .starting | .startSaving _ => some 0
  | .checking index | .waiting index _ | .unpaused index | .acting index | .updating index =>
    some index
  | .updateSaving index _ => some (index + 1)
  | _ => none

/-- The actions that have been completed at a place before the end. -/
def ExecutePc.reached : ExecutePc → Option Nat
  | .checking index | .waiting index _ | .unpaused index | .acting index => some index
  | .updating index | .updateSaving index _ => some (index + 1)
  | _ => none

namespace RunState

variable {r r' : RunState} {now k : Nat} {ok : Bool}

/-- The count of the completed steps goes along with `execute`. -/
structure Paced (r : RunState) : Prop where
  total : r.run.totalSteps = r.actions.length
  bound : r.run.completedSteps ≤ r.run.totalSteps
  counted : ∀ count, r.execute.counted = some count → r.run.completedSteps = count
  inside : ∀ index, r.execute.action? = some index → index < r.actions.length

theorem turn_action? {index i : Nat} (h : (r.turn index).action? = some i) :
    i = index ∧ i < r.actions.length := by
  unfold turn at h
  split_ifs at h with hindex
  · cases h
    exact ⟨rfl, hindex⟩
  · cases h

theorem turn_counted {index i : Nat} (h : (r.turn index).counted = some i) : i = index := by
  unfold turn at h
  split_ifs at h
  · cases h
    rfl
  · cases h

/-- At a place of the loop, both counts are the action's index. -/
theorem counted_of_action? {pc : ExecutePc} {index : Nat} (h : pc.action? = some index) :
    pc.counted = some index := by
  cases pc <;> cases h <;> rfl

/-- The turn of the loop after as many actions as are counted. -/
theorem Paced.turn (h : r.Paced) {index : Nat} (hcount : r.run.completedSteps = index) :
    Paced { r with execute := r.turn index } := by
  refine ⟨h.total, h.bound, ?_, ?_⟩
  · intro count hc
    rw [turn_counted hc]
    exact hcount
  · intro i hi
    exact (turn_action? hi).2

/-- A place at which nothing more is to be counted. -/
theorem Paced.leave (h : r.Paced) {run : Run} {pc : ExecutePc}
    (hrun : run.completedSteps = r.run.completedSteps ∧ run.totalSteps = r.run.totalSteps)
    (hpc : pc.counted = none) : Paced { r with run, execute := pc } := by
  have haction : pc.action? = none := by
    cases haction : pc.action? with
    | none => rfl
    | some index =>
      rw [counted_of_action? haction] at hpc
      cases hpc
  refine ⟨?_, ?_, ?_, ?_⟩
  · show run.totalSteps = r.actions.length
    rw [hrun.2, h.total]
  · show run.completedSteps ≤ run.totalSteps
    rw [hrun.1, hrun.2]
    exact h.bound
  · intro count hc
    rw [show pc.counted = some count from hc] at hpc
    cases hpc
  · intro index hi
    rw [show pc.action? = some index from hi] at haction
    cases haction

/-- A place with the counts of the one before it. -/
theorem Paced.stay (h : r.Paced) {run : Run} {cancelled : Bool} {pc : ExecutePc}
    (hrun : run.completedSteps = r.run.completedSteps ∧ run.totalSteps = r.run.totalSteps)
    (hcounted : pc.counted = r.execute.counted) (haction : pc.action? = r.execute.action?) :
    Paced { r with run, cancelled, execute := pc } := by
  refine ⟨?_, ?_, ?_, ?_⟩
  · show run.totalSteps = r.actions.length
    rw [hrun.2, h.total]
  · show run.completedSteps ≤ run.totalSteps
    rw [hrun.1, hrun.2]
    exact h.bound
  · intro count hc
    show run.completedSteps = count
    rw [hrun.1]
    exact h.counted count (hcounted.symm.trans hc)
  · intro index hi
    exact h.inside index (haction.symm.trans hi)

/-- `execute` keeps the count, which only an action that is completed moves on. -/
theorem Advances.paced (h : r.Advances now ok r') (hr : r.Paced) : r'.Paced := by
  cases h with
  | creates hpc | created hpc | drops hpc | discards hpc | wakes hpc | acts hpc | starts hpc =>
    exact hr.stay ⟨rfl, rfl⟩ (by rw [hpc]; rfl) (by rw [hpc]; rfl)
  | looks hpc hpc' =>
    rcases hpc' with rfl | rfl
    · exact hr.stay ⟨rfl, rfl⟩ (by rw [hpc]; rfl) (by rw [hpc]; rfl)
    · exact hr.stay ⟨rfl, rfl⟩ (by rw [hpc]; rfl) (by rw [hpc]; rfl)
  | acted hpc hpc' =>
    rcases hpc' with rfl | rfl
    · exact hr.stay ⟨rfl, rfl⟩ (by rw [hpc]; rfl) (by rw [hpc]; rfl)
    · exact hr.leave ⟨rfl, rfl⟩ rfl
  | runs hpc => exact hr.turn (hr.counted 0 (by rw [hpc]; rfl))
  | started hpc => exact hr.turn (hr.counted 0 (by rw [hpc]; rfl))
  | @updated index snapshot hpc => exact hr.turn (hr.counted (index + 1) (by rw [hpc]; rfl))
  | @updates index hpc =>
    have hindex : index < r.actions.length := hr.inside index (by rw [hpc]; rfl)
    refine ⟨hr.total, ?_, ?_, nofun⟩
    · show index + 1 ≤ r.run.totalSteps
      rw [hr.total]
      omega
    · intro count hc
      exact Option.some.inj hc
  | refused | unstarted | heeds | unsaved | marks | ends | saves | leaves | releases =>
    exact hr.leave ⟨rfl, rfl⟩ rfl
  | rests => exact hr

/-- A call of `Control` leaves the counts and the place of `execute` alone. -/
theorem CallAdvances.counts (h : r.CallAdvances now ok k r') :
    r'.run.completedSteps = r.run.completedSteps ∧ r'.run.totalSteps = r.run.totalSteps ∧
      r'.actions = r.actions := by
  cases h <;> exact ⟨rfl, rfl, rfl⟩

theorem Paced.go (h : r.Paced) (now : Nat) (ok : Bool) (thread : Thread) :
    (r.go now ok thread).Paced := by
  cases thread with
  | execute => exact (r.stepExecute_advances now ok).paced h
  | call k =>
    have hstep := r.stepCall_advances now k ok
    obtain ⟨hcompleted, htotal, hactions⟩ := hstep.counts
    have hpc := hstep.execute
    refine ⟨?_, ?_, ?_, ?_⟩
    · exact htotal.trans (h.total.trans (congrArg List.length hactions.symm))
    · exact hcompleted.trans_le (h.bound.trans_eq htotal.symm)
    · intro count hc
      exact hcompleted.trans (h.counted count ((congrArg ExecutePc.counted hpc).symm.trans hc))
    · intro index hi
      have hbefore := h.inside index ((congrArg ExecutePc.action? hpc).symm.trans hi)
      exact hbefore.trans_eq (congrArg List.length hactions.symm)

theorem paced_fresh (id taskID : String) (actions : List String) :
    (RunState.fresh id taskID actions).Paced := by
  refine ⟨rfl, Nat.zero_le _, ?_, nofun⟩
  intro count hc
  exact Option.some.inj hc

/-- No step takes a completed action off the count, or changes how many there are. -/
theorem go_counts (h : r.Paced) (now : Nat) (ok : Bool) (thread : Thread) :
    r.run.completedSteps ≤ (r.go now ok thread).run.completedSteps ∧
      (r.go now ok thread).run.totalSteps = r.run.totalSteps := by
  cases thread with
  | call k =>
    obtain ⟨hcompleted, htotal, -⟩ := (r.stepCall_advances now k ok).counts
    exact ⟨hcompleted.ge, htotal⟩
  | execute =>
    have hstep := r.stepExecute_advances now ok
    show r.run.completedSteps ≤ (r.stepExecute now ok).run.completedSteps ∧
      (r.stepExecute now ok).run.totalSteps = r.run.totalSteps
    generalize r.stepExecute now ok = r' at hstep
    cases hstep with
    | @updates index hpc =>
      have hcount : r.run.completedSteps = index := h.counted index (by rw [hpc]; rfl)
      exact ⟨hcount.trans_le (Nat.le_succ index), rfl⟩
    | _ => exact ⟨le_rfl, rfl⟩

/-- What is known of the actions of a run that have been completed without error. -/
structure Earned (r : RunState) (done : Nat → Prop) : Prop where
  reached : ∀ count, r.execute.reached = some count → ∀ index < count, done index
  finishing : r.execute = .finishing → ∀ index < r.actions.length, done index
  succeeded : r.run.status = .succeeded → ∀ index < r.actions.length, done index

/-- The action that the thread completes without error. -/
def completes (r : RunState) (thread : Thread) (ok : Bool) : Option Nat :=
  match r.execute with
  | .acting index => if thread = .execute && ok then some index else none
  | _ => none

theorem Earned.mono {done done' : Nat → Prop} (h : r.Earned done)
    (hdone : ∀ index, done index → done' index) : r.Earned done' := by
  refine ⟨?_, ?_, ?_⟩
  · intro count hc index hi
    exact hdone index (h.reached count hc index hi)
  · intro hpc index hi
    exact hdone index (h.finishing hpc index hi)
  · intro hstatus index hi
    exact hdone index (h.succeeded hstatus index hi)

/-- The turn of the loop after as many actions as have been completed. -/
theorem Earned.turn {done : Nat → Prop} (h : r.Earned done) {index : Nat}
    (hreached : ∀ i < index, done i) : Earned { r with execute := r.turn index } done := by
  refine ⟨?_, ?_, h.succeeded⟩
  · intro count hc
    show ∀ i < count, done i
    unfold RunState.turn at hc
    split_ifs at hc
    · cases hc
      exact hreached
    · cases hc
  · intro hpc i hi
    apply hreached
    unfold RunState.turn at hpc
    split_ifs at hpc with hindex
    exact hi.trans_le (not_lt.mp hindex)

/-- A place at which no more is known than before. -/
theorem Earned.stay {done : Nat → Prop} (h : r.Earned done) {run : Run} {cancelled : Bool}
    {pc : ExecutePc} (hstatus : run.status = .succeeded → r.run.status = .succeeded)
    (hpc : pc.reached = r.execute.reached ∨ pc.reached = none) (hfinish : pc ≠ .finishing) :
    Earned { r with run, cancelled, execute := pc } done := by
  refine ⟨?_, ?_, ?_⟩
  · intro count hc
    rcases hpc with hsame | hnone
    · exact h.reached count (hsame.symm.trans hc)
    · rw [show pc.reached = some count from hc] at hnone
      cases hnone
  · intro he
    exact (hfinish he).elim
  · intro hsucceeded
    exact h.succeeded (hstatus hsucceeded)

/-- `execute` comes past an action only when it completes it. -/
theorem Advances.earned {done : Nat → Prop} (h : r.Advances now ok r') (hr : r.Earned done)
    (hnow : ∀ index, r.execute = .acting index → r'.execute = .updating index → done index) :
    r'.Earned done := by
  cases h with
  | creates | created | drops | discards | refused | unstarted | heeds | unsaved | leaves
  | releases | marks =>
    exact hr.stay id (Or.inr rfl) nofun
  | starts => exact hr.stay nofun (Or.inr rfl) nofun
  | wakes hpc | acts hpc => exact hr.stay id (Or.inl (by rw [hpc]; rfl)) nofun
  | looks hpc hpc' =>
    rcases hpc' with rfl | rfl
    · exact hr.stay id (Or.inl (by rw [hpc]; rfl)) nofun
    · exact hr.stay id (Or.inl (by rw [hpc]; rfl)) nofun
  | @acted index pc hpc hpc' =>
    rcases hpc' with rfl | rfl
    · refine ⟨?_, nofun, hr.succeeded⟩
      intro count hc i hi
      cases hc
      rcases Nat.lt_succ_iff_lt_or_eq.mp hi with hless | rfl
      · exact hr.reached index (by rw [hpc]; rfl) i hless
      · exact hnow i hpc rfl
    · exact hr.stay id (Or.inr rfl) nofun
  | updates hpc => exact hr.stay id (Or.inl (by rw [hpc]; rfl)) nofun
  | runs => exact hr.turn nofun
  | started => exact hr.turn nofun
  | @updated index snapshot hpc => exact hr.turn (hr.reached (index + 1) (by rw [hpc]; rfl))
  | ends => exact hr.stay id (Or.inr rfl) nofun
  | @saves next hend hyes =>
    refine ⟨nofun, nofun, ?_⟩
    intro hsucceeded
    -- of the places at which `execute` ends a run, only one makes it succeed
    have hnext : next = .succeeded := hsucceeded
    rw [hnext] at hend
    apply hr.finishing
    revert hend
    cases r.execute <;> simp [ExecutePc.end?]
  | rests => exact hr

theorem CallAdvances.earned {done : Nat → Prop} (h : r.CallAdvances now ok k r')
    (hr : r.Earned done) : r'.Earned done := by
  have hpc := h.execute
  have hactions := h.counts.2.2
  refine ⟨?_, ?_, ?_⟩
  · rw [hpc]
    exact hr.reached
  · rw [hpc, hactions]
    exact hr.finishing
  · rw [hactions]
    intro hsucceeded
    apply hr.succeeded
    cases h with
    | @moves call =>
      revert hsucceeded
      show call.operation.status = .succeeded → _
      cases call.operation <;> exact nofun
    | _ => exact hsucceeded

/-- A step of a thread adds the action that it completes. -/
theorem Earned.go {done : Nat → Prop} (h : r.Earned done) (now : Nat) (ok : Bool)
    (thread : Thread) (hnow : ∀ index, r.completes thread ok = some index → done index) :
    (r.go now ok thread).Earned done := by
  cases thread with
  | call k => exact (r.stepCall_advances now k ok).earned h
  | execute =>
    apply (r.stepExecute_advances now ok).earned h
    intro index hpc hpc'
    apply hnow
    unfold completes
    unfold stepExecute at hpc'
    rw [hpc] at hpc' ⊢
    cases ok with
    | true => rfl
    | false => cases hcancelled : r.cancelled <;> simp [hcancelled] at hpc'

theorem earned_fresh (id taskID : String) (actions : List String) (done : Nat → Prop) :
    (RunState.fresh id taskID actions).Earned done := ⟨nofun, nofun, nofun⟩

/-- A stop that has returned with success has cancelled the run. -/
def Obeyed (r : RunState) : Prop :=
  ∀ (k : Nat) (call : Call), r.calls[k]? = some call → call.operation = .stop →
    call.pc ≠ .entered ∧ (call.pc = .returned (.ok ()) → r.cancelled = true)

theorem Advances.cancelled_stays (h : r.Advances now ok r') (hc : r.cancelled = true) :
    r'.cancelled = true := by
  cases h with
  | drops => rfl
  | _ => exact hc

theorem CallAdvances.cancelled_stays (h : r.CallAdvances now ok k r') (hc : r.cancelled = true) :
    r'.cancelled = true := by
  cases h with
  | cancels => rfl
  | _ => exact hc

theorem go_cancelled (now : Nat) (ok : Bool) (thread : Thread) (hc : r.cancelled = true) :
    (r.go now ok thread).cancelled = true := by
  cases thread with
  | execute => exact (r.stepExecute_advances now ok).cancelled_stays hc
  | call k => exact (r.stepCall_advances now k ok).cancelled_stays hc

theorem CallAdvances.obeyed (h : r.CallAdvances now ok k r') (hr : r.Obeyed) : r'.Obeyed := by
  intro j call hj hstop
  by_cases hk : j = k
  · subst hk
    have own {old : Call} {pc : CallPc} (hold : r.calls[j]? = some old)
        (hj : (r.setCall j old pc).calls[j]? = some call) (hpc : old.operation = .stop →
          pc ≠ .entered ∧ (pc = .returned (.ok ()) → r'.cancelled = true)) :
        call.pc ≠ .entered ∧ (call.pc = .returned (.ok ()) → r'.cancelled = true) := by
      rw [setCall, Keyed.lookup_insert, if_pos rfl] at hj
      cases hj
      exact hpc hstop
    cases h with
    | rests => exact hr j call hj hstop
    | answered hold hpc =>
      apply own hold hj
      intro hold'
      exact ((hr j _ hold hold').1 hpc).elim
    | enters hold => exact own hold hj (fun _ => ⟨by rintro ⟨⟩, by rintro ⟨⟩⟩)
    | idles hold | saved hold =>
      apply own hold hj
      intro hold'
      rw [hold']
      exact ⟨by rintro ⟨⟩, by rintro ⟨⟩⟩
    | refused hold | unsaved hold =>
      apply own hold hj
      intro hold'
      rw [hold']
      exact ⟨by rintro ⟨⟩, by rintro ⟨⟩⟩
    | moves hold => exact own hold hj (fun _ => ⟨by rintro ⟨⟩, by rintro ⟨⟩⟩)
    | undoes hold => exact own hold hj (fun _ => ⟨by rintro ⟨⟩, by rintro ⟨⟩⟩)
    | cancels hold => exact own hold hj (fun _ => ⟨by rintro ⟨⟩, fun _ => rfl⟩)
  · rw [h.others hk] at hj
    obtain ⟨hentered, hreturned⟩ := hr j call hj hstop
    exact ⟨hentered, fun hpc => h.cancelled_stays (hreturned hpc)⟩

theorem Obeyed.go (h : r.Obeyed) (now : Nat) (ok : Bool) (thread : Thread) :
    (r.go now ok thread).Obeyed := by
  cases thread with
  | call k => exact (r.stepCall_advances now k ok).obeyed h
  | execute =>
    have hstep := r.stepExecute_advances now ok
    intro k call hk hstop
    rw [show (r.go now ok .execute).calls = r.calls from hstep.calls] at hk
    obtain ⟨hentered, hreturned⟩ := h k call hk hstop
    exact ⟨hentered, fun hpc => hstep.cancelled_stays (hreturned hpc)⟩

theorem Obeyed.begin (h : r.Obeyed) (operation : Operation) : (r.begin k operation).Obeyed := by
  intro j call hj hstop
  rw [RunState.begin, Keyed.lookup_insert] at hj
  split_ifs at hj
  · cases hj
    cases operation with
    | stop => exact ⟨by rintro ⟨⟩, by rintro ⟨⟩⟩
    | pause | resume => cases hstop
  · exact h j call hj hstop

theorem obeyed_fresh (id taskID : String) (actions : List String) :
    (RunState.fresh id taskID actions).Obeyed := by
  intro k call hk
  simp [RunState.fresh] at hk

/-- An action is under way that was before, or that `execute` has passed its wait for. -/
theorem Advances.acting (h : r.Advances now ok r') {index : Nat}
    (hacting : r'.execute = .acting index) :
    r.execute = .acting index ∨ r.execute = .unpaused index := by
  have turns (i : Nat) : r.turn i ≠ .acting index := by
    unfold RunState.turn
    split_ifs <;> exact nofun
  cases h with
  | acts hpc =>
    cases hacting
    exact Or.inr hpc
  | rests => exact Or.inl hacting
  | runs | started | updated => exact (turns _ hacting).elim
  | looks _ hpc | acted _ hpc => rcases hpc with rfl | rfl <;> cases hacting
  | _ => cases hacting

/-- In a run that is cancelled, `execute` passes no wait. -/
theorem go_acting (now : Nat) (ok : Bool) (thread : Thread) (hc : r.cancelled = true) {index : Nat}
    (hacting : (r.go now ok thread).execute = .acting index) : r.execute = .acting index := by
  cases thread with
  | call k =>
    rw [← (r.stepCall_advances now k ok).execute]
    exact hacting
  | execute =>
    rcases (r.stepExecute_advances now ok).acting hacting with hbefore | hwait
    · exact hbefore
    · have hstopping : (r.stepExecute now ok).execute = .stopping := by
        simp [stepExecute, hwait, hc]
      rw [show (r.stepExecute now ok).execute = .acting index from hacting] at hstopping
      cases hstopping

/-- A stop has returned with success. -/
def StopReturned (r : RunState) : Prop :=
  ∃ (k : Nat) (call : Call), r.calls[k]? = some call ∧ call.operation = .stop ∧
    call.pc = .returned (.ok ())

/-- What becomes of a run: a terminal status stays, and its count of steps only grows. -/
structure Follows (r r' : RunState) : Prop where
  status : r.run.status.Terminal → r'.run.status = r.run.status
  completed : r.run.completedSteps ≤ r'.run.completedSteps
  total : r'.run.totalSteps = r.run.totalSteps

theorem follows_refl (r : RunState) : r.Follows r := ⟨fun _ => rfl, le_rfl, rfl⟩

theorem Follows.trans {a b c : RunState} (hab : a.Follows b) (hbc : b.Follows c) : a.Follows c := by
  refine ⟨?_, hab.completed.trans hbc.completed, hbc.total.trans hab.total⟩
  intro hterminal
  have hb := hab.status hterminal
  have hstill : b.run.status.Terminal := by
    rw [hb]
    exact hterminal
  exact (hbc.status hstill).trans hb

theorem follows_go (h : r.Paced) (now : Nat) (ok : Bool) (thread : Thread) :
    r.Follows (r.go now ok thread) := by
  obtain ⟨hcompleted, htotal⟩ := go_counts h now ok thread
  exact ⟨(r.go_leads now ok thread).terminal, hcompleted, htotal⟩

end RunState

namespace ServiceState

variable {tasks : TaskStore} {s : ServiceState} {n : Nat}

/-- The actions that a step completes without error, each with its run. -/
def completes (s : ServiceState) : ServiceAct → List (Nat × Nat)
  | .go n thread ok =>
    match s.runs[n]? with
    | none => []
    | some r =>
      match r.completes thread ok with
      | none => []
      | some index => [(n, index)]
  | _ => []

/-- The step starts an action of the run: `execute` passes its wait for it. -/
def StartsAction (tasks : TaskStore) (n : Nat) (s : ServiceState) (act : ServiceAct) : Prop :=
  ∃ r' index, (step tasks s act).runs[n]? = some r' ∧ r'.execute = .acting index ∧
    ∀ r, s.runs[n]? = some r → r.execute ≠ .acting index

/-- What a step does to a run: at most a call of `Control` enters it, or a thread of it goes on. -/
theorem run_moves (tasks : TaskStore) {r : RunState} (hr : s.runs[n]? = some r) (act : ServiceAct) :
    ∃ r', (step tasks s act).runs[n]? = some r' ∧ (r' = r ∨
      (∃ k operation, k ∉ r.calls ∧ r' = r.begin k operation) ∨
      ∃ thread ok, act = .go n thread ok ∧ r' = r.go s.now ok thread) := by
  have hsteps := step_steps tasks s act
  generalize step tasks s act = s' at hsteps
  cases hsteps with
  | idles => exact ⟨r, hr, Or.inl rfl⟩
  | @begins m _ _ _ _ hm =>
    have hne : n ≠ m := by
      intro he
      rw [he, hm] at hr
      cases hr
    refine ⟨r, ?_, Or.inl rfl⟩
    rw [Keyed.lookup_insert, if_neg hne, hr]
  | @enters m k _ _ op r' _ hr' hk =>
    by_cases hnm : n = m
    · subst hnm
      cases hr.symm.trans hr'
      refine ⟨_, ?_, Or.inr (Or.inl ⟨k, op, hk, rfl⟩)⟩
      rw [Keyed.lookup_insert, if_pos rfl]
    · refine ⟨r, ?_, Or.inl rfl⟩
      rw [Keyed.lookup_insert, if_neg hnm, hr]
  | @goes m thread ok r' hr' =>
    by_cases hnm : n = m
    · subst hnm
      cases hr.symm.trans hr'
      refine ⟨_, ?_, Or.inr (Or.inr ⟨thread, ok, rfl, rfl⟩)⟩
      rw [Keyed.lookup_insert, if_pos rfl]
    · refine ⟨r, ?_, Or.inl rfl⟩
      rw [Keyed.lookup_insert, if_neg hnm, hr]

/-- What holds of all runs at any time, for the actions completed so far. -/
structure Kept (s : ServiceState) (done : List (Nat × Nat)) : Prop where
  paced : ∀ (n : Nat) (r : RunState), s.runs[n]? = some r → r.Paced
  earned : ∀ (n : Nat) (r : RunState), s.runs[n]? = some r → r.Earned (fun index => (n, index) ∈ done)
  obeyed : ∀ (n : Nat) (r : RunState), s.runs[n]? = some r → r.Obeyed

theorem kept_start (rows : Keyed String Run) : (start rows).Kept [] := by
  refine ⟨?_, ?_, ?_⟩
  all_goals
    intro n r hr
    simp [start] at hr

theorem kept_step {done : List (Nat × Nat)} (h : s.Kept done) (act : ServiceAct) :
    (step tasks s act).Kept (done ++ s.completes act) := by
  refine ⟨?_, ?_, ?_⟩
  · refine runs_step act h.paced RunState.paced_fresh ?_ ?_
    · intro r k operation hr _
      exact ⟨hr.total, hr.bound, hr.counted, hr.inside⟩
    · intro n thread ok r _ _ hr
      exact hr.go s.now ok thread
  · -- what is known of a run is about its own number, which the rule for all runs does not see
    intro m r' hr'
    cases hr : s.runs[m]? with
    | none =>
      have hsteps := step_steps tasks s act
      generalize step tasks s act = s' at hsteps hr'
      cases hsteps with
      | idles => rw [hr] at hr'; cases hr'
      | begins =>
        rcases Keyed.lookup_insert_cases hr' with ⟨-, rfl⟩ | ⟨-, hold⟩
        · exact RunState.earned_fresh _ _ _ _
        · rw [hr] at hold
          cases hold
      | enters _ hother | goes hother =>
        rcases Keyed.lookup_insert_cases hr' with ⟨rfl, -⟩ | ⟨-, hold⟩
        · rw [hr] at hother
          cases hother
        · rw [hr] at hold
          cases hold
    | some r =>
      have before : r.Earned (fun index => (m, index) ∈ done ++ s.completes act) :=
        (h.earned m r hr).mono (fun index hdone => List.mem_append_left _ hdone)
      obtain ⟨r'', hlookup, hmove⟩ := run_moves tasks hr act
      rw [hr'] at hlookup
      cases hlookup
      rcases hmove with rfl | ⟨k, operation, -, rfl⟩ | ⟨thread, ok, rfl, rfl⟩
      · exact before
      · exact ⟨before.reached, before.finishing, before.succeeded⟩
      · apply before.go
        intro index hcompletes
        apply List.mem_append_right
        simp [completes, hr, hcompletes]
  · refine runs_step act h.obeyed RunState.obeyed_fresh ?_ ?_
    · intro r k operation hr _
      exact hr.begin operation
    · intro n thread ok r _ _ hr
      exact hr.go s.now ok thread

/-- What follows on a run after a state of the service in which all is in order. -/
theorem follows_run {r r' : RunState} {done : List (Nat × Nat)} {acts : List ServiceAct}
    (h : s.Kept done) (hr : s.runs[n]? = some r)
    (hr' : (run (step tasks) s acts).runs[n]? = some r') : r.Follows r' := by
  induction acts generalizing s r done with
  | nil =>
    cases hr.symm.trans hr'
    exact RunState.follows_refl _
  | cons act acts ih =>
    obtain ⟨next, hnext, hmove⟩ := run_moves tasks hr act
    have hrest : next.Follows r' := ih (kept_step h act) hnext hr'
    refine RunState.Follows.trans ?_ hrest
    rcases hmove with rfl | ⟨k, operation, -, rfl⟩ | ⟨thread, ok, -, rfl⟩
    · exact RunState.follows_refl _
    · exact ⟨fun _ => rfl, le_rfl, rfl⟩
    · exact RunState.follows_go (h.paced n r hr) s.now ok thread

/-- A run that is cancelled starts no action, and stays cancelled. -/
theorem cancelled_step {r : RunState} (hr : s.runs[n]? = some r) (hc : r.cancelled = true)
    (act : ServiceAct) : ¬StartsAction tasks n s act ∧
      ∃ r', (step tasks s act).runs[n]? = some r' ∧ r'.cancelled = true := by
  obtain ⟨r', hr', hmove⟩ := run_moves tasks hr act
  constructor
  · rintro ⟨other, index, hother, hacting, hbefore⟩
    cases hr'.symm.trans hother
    apply hbefore r hr
    rcases hmove with rfl | ⟨k, operation, -, rfl⟩ | ⟨thread, ok, -, rfl⟩
    · exact hacting
    · exact hacting
    · exact RunState.go_acting s.now ok thread hc hacting
  · refine ⟨r', hr', ?_⟩
    rcases hmove with rfl | ⟨k, operation, -, rfl⟩ | ⟨thread, ok, -, rfl⟩
    · exact hc
    · exact hc
    · exact RunState.go_cancelled s.now ok thread hc

/-- Between any two states of a run: a terminal status stays, the completed steps are counted up and
never past their total, a run that has succeeded has completed every action, and after a stop that
has returned with success no wait for an action is passed. -/
theorem run_state_machine (tasks : TaskStore) (rows : Keyed String Run) (pre post : List ServiceAct)
    (n : Nat) (r r' : RunState) (hr : (run (step tasks) (start rows) pre).runs[n]? = some r)
    (hr' : (run (step tasks) (start rows) (pre ++ post)).runs[n]? = some r') :
    (r.run.status.Terminal → r'.run.status = r.run.status) ∧
    r.run.completedSteps ≤ r'.run.completedSteps ∧
    r'.run.completedSteps ≤ r'.run.totalSteps ∧
    (r'.run.totalSteps = r'.actions.length ∧ (r'.run.status = .succeeded →
      ∀ index < r'.run.totalSteps,
        (n, index) ∈ eventsOf (step tasks) completes (start rows) (pre ++ post))) ∧
    (r.StopReturned → Along (step tasks) (fun s act => ¬StartsAction tasks n s act)
      (run (step tasks) (start rows) pre) post) := by
  have kept (acts : List ServiceAct) : (run (step tasks) (start rows) acts).Kept
      (eventsOf (step tasks) completes (start rows) acts) := by
    simpa using run_history Kept (fun s done act hs => kept_step hs act) acts (kept_start rows)
  have hfollows : r.Follows r' := by
    rw [run_append] at hr'
    exact follows_run (kept pre) hr hr'
  have paced := (kept (pre ++ post)).paced n r' hr'
  refine ⟨hfollows.status, hfollows.completed, paced.bound, ⟨paced.total, ?_⟩, ?_⟩
  · intro hsucceeded index hindex
    rw [paced.total] at hindex
    exact ((kept (pre ++ post)).earned n r' hr').succeeded hsucceeded index hindex
  · rintro ⟨k, call, hcall, hstop, hreturned⟩
    have hcancelled : r.cancelled = true :=
      (((kept pre).obeyed n r hr) k call hcall hstop).2 hreturned
    have always : Along (step tasks) (fun _ _ => True) (run (step tasks) (start rows) pre) post :=
      along_of_at (fun _ _ _ _ => trivial)
    refine along_safe (fun s => ∃ r, s.runs[n]? = some r ∧ r.cancelled = true) ?_ ?_ ?_ always
    · rintro s act ⟨r, hr, hc⟩ -
      exact (cancelled_step hr hc act).2
    · rintro s act ⟨r, hr, hc⟩ -
      exact (cancelled_step hr hc act).1
    · exact ⟨r, hr, hcancelled⟩

def hasSucceeded : CallPc → Bool
  | .returned (.ok ()) => true
  | _ => false

/-- A stop comes while the only action is under way, and returns before the action does. -/
def stoppedInAction : List ServiceAct :=
  lastActionRuns ++ .control 0 "t:run-0000000000000000" "stop" ::
    List.replicate 3 (.go 0 (.call 0) true)

theorem run_state_machine_stopped :
    ((run (step oneTask) (start ∅) (stoppedInAction ++ [.go 0 .execute false])).runs[0]?.map
      (fun r => r.run.status)) = some .stopped ∧
    Along (step oneTask) (fun s act => ¬StartsAction oneTask 0 s act)
      (run (step oneTask) (start ∅) stoppedInAction) [.go 0 .execute false] := by
  have stops : ((run (step oneTask) (start ∅) stoppedInAction).runs[0]?.map
      (fun r => (r.run.status, r.calls[0]?.map (fun call => (call.operation,
        hasSucceeded call.pc))))) =
      some (.stopped, some (.stop, true)) := by
    decide
  have ends : (run (step oneTask) (start ∅)
      (stoppedInAction ++ [.go 0 .execute false])).runs[0]?.isSome = true := by
    decide
  obtain ⟨r, hr, hstop⟩ := Option.map_eq_some_iff.mp stops
  obtain ⟨r', hr'⟩ := Option.isSome_iff_exists.mp ends
  rw [Prod.mk.injEq] at hstop
  obtain ⟨hstatus, hcalls⟩ := hstop
  obtain ⟨call, hcall, hpc⟩ := Option.map_eq_some_iff.mp hcalls
  rw [Prod.mk.injEq] at hpc
  obtain ⟨stays, -, -, -, obeys⟩ :=
    run_state_machine oneTask ∅ stoppedInAction [.go 0 .execute false] 0 r r' hr hr'
  refine ⟨?_, obeys ⟨0, call, hcall, hpc.1, ?_⟩⟩
  · rw [hr', Option.map_some, stays (Or.inr (Or.inr (Or.inl hstatus))), hstatus]
  · have hreturned := hpc.2
    unfold hasSucceeded at hreturned
    split at hreturned
    · assumption
    · cases hreturned

end ServiceState

end AdbControl.Automation
