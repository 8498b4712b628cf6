import AdbControl.Automation.Service

namespace AdbControl.Automation

open Framework

/-- What is written about the calls of `Control` at any time: a stop that has moved the run has
stopped it. -/
def Call.Stops (call : Call) : Prop :=
  match call.pc with
  | .saving _ => call.operation = .stop
  | .cancelling => True
  | _ => False

/-- `execute` is past its first transition. -/
def ExecutePc.Begun : ExecutePc → Prop
  | .creating | .createSaving _ | .discarding | .discarded | .starting => False
  | _ => True

/-- What holds of a run at any time. -/
structure RunState.Sound (r : RunState) : Prop where
  begun : r.execute.Begun → r.run.status ≠ .queued
  skipped : r.run.status ≠ .skipped
  cancelled : r.cancelled = true →
    r.run.status = .stopped ∨ r.execute = .discarding ∨ r.execute = .discarded
  stopping : r.execute = .stopping → r.run.status = .stopped
  last : ∀ snapshot, r.execute = .lastSaving snapshot → r.run.status.Ended
  stops : ∀ (k : Nat) (call : Call), r.calls[k]? = some call → call.Stops → r.run.status = .stopped

/-- Where `execute` has returned, the run has ended. -/
def RunState.EndsWell (r : RunState) : Prop := r.Returned → r.run.status.Ended

/-- The step does not leave `execute` in a run that has not ended: the saves of its first
transition and of its progress succeed unless the run has ended anyway, and the run is not paused
when its actions are done. -/
def RunState.Settles (r : RunState) (thread : Thread) (ok : Bool) : Prop :=
  thread = .execute →
    match r.execute with
    | .startSaving _ | .updateSaving _ _ => ok = false → r.run.status.Ended
    | .finishing => r.run.status ≠ .paused
    | _ => True

/-- A status stays, or moves an allowed way that is not a skip. -/
def RunStatus.Leads (status next : RunStatus) : Prop :=
  next = status ∨ next ≠ .skipped ∧ transitions status next = true

theorem RunStatus.Leads.ended {status next : RunStatus} (h : status.Leads next)
    (hended : status.Ended) : next = status := by
  rcases h with hsame | ⟨-, hyes⟩
  · exact hsame
  · rw [transitions_of_ended hended next] at hyes
    cases hyes

theorem RunStatus.Leads.not_queued {status next : RunStatus} (h : status.Leads next)
    (hstatus : status ≠ .queued) : next ≠ .queued := by
  rcases h with rfl | ⟨-, hyes⟩
  · exact hstatus
  · rintro rfl
    rw [transitions_queued] at hyes
    cases hyes

theorem RunStatus.Leads.not_skipped {status next : RunStatus} (h : status.Leads next)
    (hstatus : status ≠ .skipped) : next ≠ .skipped := by
  rcases h with rfl | ⟨hnext, -⟩
  · exact hstatus
  · exact hnext

namespace RunState

variable {r r' : RunState} {now k : Nat} {ok : Bool}

theorem Advances.leads (h : r.Advances now ok r') : r.run.status.Leads r'.run.status := by
  cases h with
  | starts _ hyes => exact Or.inr ⟨nofun, hyes⟩
  | @saves next hend hyes =>
    refine Or.inr ⟨?_, hyes⟩
    rintro rfl
    revert hend
    cases r.execute <;> simp [ExecutePc.end?]
  | _ => exact Or.inl rfl

theorem CallAdvances.leads (h : r.CallAdvances now ok k r') :
    r.run.status.Leads r'.run.status := by
  cases h with
  | @moves call _ _ hyes =>
    refine Or.inr ⟨?_, hyes⟩
    cases call.operation <;> exact nofun
  | _ => exact Or.inl rfl

/-- A thread moves the status the allowed ways only. -/
theorem go_leads (r : RunState) (now : Nat) (ok : Bool) (thread : Thread) :
    r.run.status.Leads (r.go now ok thread).run.status := by
  cases thread with
  | execute => exact (r.stepExecute_advances now ok).leads
  | call k => exact (r.stepCall_advances now k ok).leads

/-- A turn of the loop is neither a stop nor an end. -/
theorem turn_quiet (r : RunState) (index : Nat) :
    r.turn index ≠ .stopping ∧ ∀ snapshot, r.turn index ≠ .lastSaving snapshot := by
  unfold turn
  split_ifs <;> exact ⟨nofun, fun _ => nofun⟩

theorem end?_ended {pc : ExecutePc} {next : RunStatus} (h : pc.end? = some next) : next.Ended := by
  cases pc <;> cases h <;> decide

/-- Past its first transition `execute` meets no run that is still queued. -/
theorem Advances.begun (h : r.Advances now ok r') (hr : r.Sound) (hbegun : r'.execute.Begun) :
    r'.run.status ≠ .queued := by
  by_cases hold : r.execute.Begun
  · exact h.leads.not_queued (hr.begun hold)
  · cases h with
    | creates | created | drops | discards => exact hbegun.elim
    | refused hpc _ hno =>
      show r.run.status ≠ .queued
      intro hqueued
      rw [hqueued] at hno
      cases hno
    | runs hpc hsame =>
      show r.run.status ≠ .queued
      rw [hsame]
      exact nofun
    | starts => exact nofun
    | started hpc | unstarted hpc | looks hpc | wakes hpc | acts hpc | acted hpc | updates hpc
    | updated hpc | unsaved hpc | marks hpc | leaves hpc | releases hpc =>
      rw [hpc] at hold
      exact (hold trivial).elim
    | heeds hpc | ends hpc | saves hpc =>
      revert hpc hold
      cases r.execute <;> simp [ExecutePc.heeds, ExecutePc.end?, ExecutePc.Begun]
    | rests hpc => exact (hold hbegun).elim

/-- `execute` cancels a run only when it drops it. -/
theorem Advances.cancelled (h : r.Advances now ok r') (hr : r.Sound) (hcancelled : r'.cancelled = true) :
    r'.run.status = .stopped ∨ r'.execute = .discarding ∨ r'.execute = .discarded := by
  have kept (hold : r.cancelled = true) (hpc : r.execute ≠ .discarding ∧ r.execute ≠ .discarded) :
      r'.run.status = .stopped := by
    rcases hr.cancelled hold with hstopped | hdrop | hdropped
    · exact (h.leads.ended (Or.inr (Or.inr hstopped))).trans hstopped
    · exact (hpc.1 hdrop).elim
    · exact (hpc.2 hdropped).elim
  cases h with
  | drops => exact Or.inr (Or.inl rfl)
  | discards => exact Or.inr (Or.inr rfl)
  | rests => exact hr.cancelled hcancelled
  | heeds hpc | ends hpc | saves hpc =>
    refine Or.inl (kept hcancelled ?_)
    constructor <;> intro he <;> rw [he] at hpc <;> cases hpc
  | creates hpc | created hpc | refused hpc | runs hpc | starts hpc | started hpc | unstarted hpc
  | looks hpc | wakes hpc | acts hpc | acted hpc | updates hpc | updated hpc | unsaved hpc
  | marks hpc | leaves hpc | releases hpc =>
    refine Or.inl (kept hcancelled ?_)
    rw [hpc]
    exact ⟨nofun, nofun⟩

/-- `execute` stops only a run that is cancelled. -/
theorem Advances.stopping (h : r.Advances now ok r') (hr : r.Sound)
    (hpc' : r'.execute = .stopping) : r'.run.status = .stopped := by
  cases h with
  | heeds hpc hcancelled =>
    rcases hr.cancelled hcancelled with hstopped | hdrop | hdropped
    · exact hstopped
    · rw [hdrop] at hpc
      cases hpc
    · rw [hdropped] at hpc
      cases hpc
  | runs | started | updated => exact ((r.turn_quiet _).1 hpc').elim
  | looks _ hpc | acted _ hpc => rcases hpc with rfl | rfl <;> cases hpc'
  | rests => exact hr.stopping hpc'
  | _ => cases hpc'

/-- A transition that `execute` is about to save at its end was one to an end. -/
theorem Advances.last (h : r.Advances now ok r') (hr : r.Sound) {snapshot : Run}
    (hpc' : r'.execute = .lastSaving snapshot) : r'.run.status.Ended := by
  cases h with
  | saves hend => exact end?_ended hend
  | runs | started | updated => exact ((r.turn_quiet _).2 snapshot hpc').elim
  | looks _ hpc | acted _ hpc => rcases hpc with rfl | rfl <;> cases hpc'
  | rests => exact hr.last snapshot hpc'
  | _ => cases hpc'

/-- `execute` keeps a run sound. -/
theorem Advances.sound (h : r.Advances now ok r') (hr : r.Sound) : r'.Sound := by
  refine ⟨h.begun hr, h.leads.not_skipped hr.skipped, h.cancelled hr, h.stopping hr,
    fun snapshot => h.last hr, ?_⟩
  intro k call hcall hstops
  rw [h.calls] at hcall
  have stopped := hr.stops k call hcall hstops
  exact (h.leads.ended (Or.inr (Or.inr stopped))).trans stopped

/-- A call that is set to a new place is the only one that changes. -/
theorem setCall_stops {call : Call} {pc : CallPc} {P : Prop}
    (others : ∀ (j : Nat) (other : Call), r.calls[j]? = some other → other.Stops → P)
    (own : Call.Stops { call with pc } → P) (j : Nat) (other : Call)
    (hj : (r.setCall k call pc).calls[j]? = some other) (hstops : other.Stops) : P := by
  rw [setCall, Keyed.lookup_insert] at hj
  split_ifs at hj
  · cases hj
    exact own hstops
  · exact others j other hj hstops

/-- A call that has just moved the run, or found it moved, to the status of a stop has stopped it. -/
theorem CallAdvances.stops (h : r.CallAdvances now ok k r') (hr : r.Sound) (j : Nat) (call : Call)
    (hcall : r'.calls[j]? = some call) (hstops : call.Stops) : r'.run.status = .stopped := by
  have others : ∀ (j : Nat) (other : Call), r.calls[j]? = some other → other.Stops →
      r'.run.status = .stopped := by
    intro j other hj hother
    have stopped := hr.stops j other hj hother
    exact (h.leads.ended (Or.inr (Or.inr stopped))).trans stopped
  cases h with
  | rests => exact hr.stops j call hcall hstops
  | answered | enters | undoes | cancels =>
    exact setCall_stops others False.elim j call hcall hstops
  | @idles own _ _ hsame =>
    refine setCall_stops others ?_ j call hcall hstops
    show Call.Stops { own with pc := Operation.done own.operation } → r.run.status = .stopped
    rw [hsame]
    cases own.operation with
    | stop => exact fun _ => rfl
    | pause | resume => exact False.elim
  | @refused own =>
    refine setCall_stops others ?_ j call hcall hstops
    cases hop : own.operation <;> simp [Operation.refused, Call.Stops]
  | @unsaved own =>
    refine setCall_stops others ?_ j call hcall hstops
    cases hop : own.operation <;> simp [Operation.refused, Call.Stops]
  | @moves own =>
    refine setCall_stops others ?_ j call hcall hstops
    intro hown
    show own.operation.status = .stopped
    rw [show own.operation = .stop from hown]
    rfl
  | @saved own snapshot hold hpc =>
    refine setCall_stops others ?_ j call hcall hstops
    intro hown
    apply hr.stops k own hold
    unfold Call.Stops
    rw [hpc]
    cases hop : own.operation <;> simp [hop, Operation.done, Call.Stops] at hown ⊢

/-- A call of `Control` keeps a run sound. -/
theorem CallAdvances.sound (h : r.CallAdvances now ok k r') (hr : r.Sound) : r'.Sound := by
  have hpc := h.execute
  have stays (hstopped : r.run.status = .stopped) : r'.run.status = .stopped :=
    (h.leads.ended (Or.inr (Or.inr hstopped))).trans hstopped
  refine ⟨?_, h.leads.not_skipped hr.skipped, ?_, ?_, ?_, h.stops hr⟩
  · rw [hpc]
    exact fun hbegun => h.leads.not_queued (hr.begun hbegun)
  · rw [hpc]
    intro hcancelled
    have old (hold : r.cancelled = true) :
        r'.run.status = .stopped ∨ r.execute = .discarding ∨ r.execute = .discarded :=
      (hr.cancelled hold).imp_left stays
    cases h with
    | @cancels call hcall hcancelling =>
      refine Or.inl (hr.stops k call hcall ?_)
      unfold Call.Stops
      rw [hcancelling]
      trivial
    | _ => exact old hcancelled
  · rw [hpc]
    exact fun hstopping => stays (hr.stopping hstopping)
  · rw [hpc]
    intro snapshot hlast
    have ended := hr.last snapshot hlast
    rwa [h.leads.ended ended]

theorem Sound.go (hr : r.Sound) (now : Nat) (ok : Bool) (thread : Thread) :
    (r.go now ok thread).Sound := by
  cases thread with
  | execute => exact (r.stepExecute_advances now ok).sound hr
  | call k => exact (r.stepCall_advances now k ok).sound hr

theorem sound_fresh (id taskID : String) (actions : List String) :
    (RunState.fresh id taskID actions).Sound := by
  refine ⟨False.elim, nofun, nofun, nofun, fun _ => nofun, ?_⟩
  intro k call hk
  simp [RunState.fresh] at hk

theorem Sound.begin (hr : r.Sound) (operation : Operation) : (r.begin k operation).Sound := by
  refine ⟨hr.begun, hr.skipped, hr.cancelled, hr.stopping, hr.last, ?_⟩
  intro j call hj hstops
  rw [RunState.begin, Keyed.lookup_insert] at hj
  split_ifs at hj
  · cases hj
    cases operation <;> exact hstops.elim
  · exact hr.stops j call hj hstops

/-- Of the statuses a run can be left in, all but a pause are ends. -/
theorem Sound.ended_iff (hr : r.Sound) {next : RunStatus} (hbegun : r.execute.Begun)
    (hend : r.execute.end? = some next)
    (hno : r.run.status = next ∨ transitions r.run.status next = false) :
    r.run.status.Ended ↔ (next = .succeeded → r.run.status ≠ .paused) := by
  have ended := end?_ended hend
  have queued := hr.begun hbegun
  have skipped := hr.skipped
  revert ended queued skipped hno
  cases r.run.status <;> cases next <;> decide

/-- After a step `execute` has returned in a run that has ended, exactly when the step settles it. -/
theorem Advances.endsWell_iff (h : r.Advances now ok r') (hr : r.Sound) (hwell : r.EndsWell) :
    r'.EndsWell ↔ r.Settles .execute ok := by
  have goes {P : Prop} (hout : r'.execute ≠ .leaving ∧ r'.execute ≠ .returned) (hP : P) :
      r'.EndsWell ↔ P :=
    iff_of_true (fun hret => (hret.elim hout.1 hout.2).elim) hP
  have turns (index : Nat) : r.turn index ≠ .leaving ∧ r.turn index ≠ .returned := by
    unfold turn
    split_ifs <;> exact ⟨nofun, nofun⟩
  simp only [Settles, forall_const]
  cases h with
  | unstarted hpc hok =>
    rw [hpc, hok]
    simp [EndsWell, Returned]
  | unsaved hpc hok =>
    rw [hpc, hok]
    simp [EndsWell, Returned]
  | started hpc hok =>
    rw [hpc, hok]
    exact goes (turns 0) nofun
  | @updated index snapshot hpc hok =>
    rw [hpc, hok]
    exact goes (turns (index + 1)) nofun
  | runs hpc =>
    rw [hpc]
    exact goes (turns 0) trivial
  | refused hpc hsame hno =>
    rw [hpc]
    refine iff_of_true ?_ trivial
    intro hret
    have skipped := hr.skipped
    revert hsame hno skipped
    show r.run.status ≠ .running → _ → _ → r.run.status.Ended
    cases r.run.status <;> decide
  | leaves hpc =>
    rw [hpc]
    exact iff_of_true (fun _ => hr.last _ hpc) trivial
  | releases hpc =>
    rw [hpc]
    exact iff_of_true (fun _ => hwell (Or.inl hpc)) trivial
  | @ends next hend hno =>
    have hbegun : r.execute.Begun := by
      revert hend
      cases r.execute <;> simp [ExecutePc.end?, ExecutePc.Begun]
    have left : EndsWell { r with execute := .leaving } ↔ r.run.status.Ended := by
      simp [EndsWell, Returned]
    rw [left, hr.ended_iff hbegun hend hno]
    revert hend
    cases r.execute <;> rintro ⟨⟩ <;> simp
  | @saves next hend hyes =>
    refine goes ⟨nofun, nofun⟩ ?_
    revert hend
    cases r.execute <;> rintro ⟨⟩ <;> simp
    rintro hpaused
    rw [hpaused] at hyes
    cases hyes
  | rests hpc =>
    refine iff_of_true hwell ?_
    rcases hpc with hheeds | hpc | hpc
    · revert hheeds
      cases r.execute <;> simp [ExecutePc.heeds]
    · rw [hpc]
      trivial
    · rw [hpc]
      trivial
  | looks hpc hpc' | acted hpc hpc' =>
    rw [hpc]
    refine goes ?_ trivial
    rcases hpc' with rfl | rfl <;> exact ⟨nofun, nofun⟩
  | heeds hpc =>
    refine goes ⟨nofun, nofun⟩ ?_
    revert hpc
    cases r.execute <;> simp [ExecutePc.heeds]
  | creates hpc | created hpc | drops hpc | discards hpc | starts hpc | wakes hpc | acts hpc
  | updates hpc | marks hpc =>
    rw [hpc]
    exact goes ⟨nofun, nofun⟩ trivial

/-- After a step of any thread `execute` has returned in a run that has ended, exactly when the step
settles it. -/
theorem endsWell_go_iff (hr : r.Sound) (hwell : r.EndsWell) (now : Nat) (ok : Bool)
    (thread : Thread) : (r.go now ok thread).EndsWell ↔ r.Settles thread ok := by
  cases thread with
  | execute => exact (r.stepExecute_advances now ok).endsWell_iff hr hwell
  | call k =>
    refine iff_of_true ?_ nofun
    have hstep := r.stepCall_advances now k ok
    have hpc : (r.go now ok (.call k)).execute = r.execute := hstep.execute
    intro hret
    rw [Returned, hpc] at hret
    have ended := hwell hret
    rwa [show (r.go now ok (.call k)).run.status = r.run.status from hstep.leads.ended ended]

end RunState

namespace ServiceState

variable {tasks : TaskStore}

/-- Each step settles the run that it goes on with. -/
def Settles (s : ServiceState) : ServiceAct → Prop
  | .go n thread ok => ∀ r, s.runs[n]? = some r → r.Settles thread ok
  | _ => True

/-- In every run whose `execute` has returned, the run has ended. -/
def AllEnd (s : ServiceState) : Prop :=
  ∀ (n : Nat) (r : RunState), s.runs[n]? = some r → r.EndsWell

def AllSound (s : ServiceState) : Prop :=
  ∀ (n : Nat) (r : RunState), s.runs[n]? = some r → r.Sound

theorem step_sound {s : ServiceState} (h : s.AllSound) (act : ServiceAct) :
    (step tasks s act).AllSound :=
  runs_step act h RunState.sound_fresh (fun _ _ operation hr _ => hr.begin operation)
    (fun _ thread ok _ _ _ hr => hr.go s.now ok thread)

/-- A step keeps all runs ended well exactly when it settles the run it goes on with. -/
theorem step_allEnd_iff {s : ServiceState} (hsound : s.AllSound) (h : s.AllEnd)
    (act : ServiceAct) : (step tasks s act).AllEnd ↔ s.Settles act := by
  constructor
  · intro hafter
    cases act with
    | go n thread ok =>
      intro r hr
      rw [← RunState.endsWell_go_iff (hsound n r hr) (h n r hr) s.now]
      apply hafter n
      simp [step, hr]
    | elapse | run | control => trivial
  · intro hsettles
    apply runs_step act h
    · intro id taskID actions hret
      rcases hret with hret | hret <;> cases hret
    · intro r k operation hr _
      exact hr
    · intro n thread ok r hact hr hwell
      subst hact
      exact (RunState.endsWell_go_iff (hsound n r hr) hwell s.now ok thread).mpr (hsettles r hr)

/-- From the start of the service on, all runs end well after every step exactly when every step
settles the run that it goes on with. -/
theorem runs_end_iff (tasks : TaskStore) (rows : Keyed String Run) (acts : List ServiceAct) :
    Along (step tasks) (fun s act => (step tasks s act).AllEnd) (start rows) acts ↔
      Along (step tasks) Settles (start rows) acts := by
  apply along_congr (fun s : ServiceState => s.AllSound ∧ s.AllEnd)
  · intro s act hs hafter
    exact ⟨step_sound hs.1 act, hafter⟩
  · intro s act hs
    exact step_allEnd_iff hs.1 hs.2 act
  · constructor
    · intro n r hr
      simp [start] at hr
    · intro n r hr
      simp [start] at hr

/-- The run is paused meanwhile, and the action then succeeds. -/
def pausedInLastAction : List ServiceAct :=
  lastActionRuns ++ .control 0 "t:run-0000000000000000" "pause" ::
    List.replicate 3 (.go 0 (.call 0) true) ++ List.replicate 4 (.go 0 .execute true)

/-- Then `execute` has returned in a run that is paused. -/
theorem paused_run_left : ¬∀ (tasks : TaskStore) (rows : Keyed String Run)
    (acts : List ServiceAct),
    Along (step tasks) (fun s act => (step tasks s act).AllEnd) (start rows) acts := by
  intro h
  have last := (h oneTask ∅
    (pausedInLastAction ++ [.elapse 0])).at
  have left : ((step oneTask
      (run (step oneTask) (start ∅) pausedInLastAction)
      (.elapse 0)).runs[0]?.map (fun r => (r.execute, r.run.status))) =
      some (.leaving, .paused) := by
    decide
  obtain ⟨r, hr, hleft⟩ := Option.map_eq_some_iff.mp left
  rw [Prod.mk.injEq] at hleft
  have ended := last 0 r hr (Or.inl hleft.1)
  rw [hleft.2] at ended
  revert ended
  decide

end ServiceState

end AdbControl.Automation
