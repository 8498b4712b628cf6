import AdbControl.Automation.Model

namespace AdbControl.Automation

open Framework

def stateInvalid : AppError :=
  ⟨"AUTOMATION_STATE_INVALID", "自动化运行状态转换失败", "automation.runtime", false, none⟩

def statusSaveFailed : AppError :=
  ⟨"AUTOMATION_RUN_SAVE_FAILED", "自动化运行状态保存失败", "automation.repository", true, none⟩

/-- `transitionRun` while it holds the lock: there is nothing to do, or the run has moved and is to
be saved as it is now. -/
def transitionRun (run : Run) (now : Nat) (next : RunStatus) : Except AppError (Option Run) :=
  if run.status = next then .ok none
  else
    match run.transition now next with
    | none => .error stateInvalid
    | some run => .ok (some run)

/-- How far a run has come, from the entry in the map of its control on: first in `Run`, which
creates its row, then in `execute`. A snapshot is taken under the lock and saved after it. -/
inductive ExecutePc
  | creating
  | createSaving (snapshot : Run)
  | discarding
  | discarded
  | starting
  | startSaving (snapshot : Run)
  | checking (index : Nat)
  | waiting (index : Nat) (generation : Nat)
  | unpaused (index : Nat)
  | acting (index : Nat)
  | updating (index : Nat)
  | updateSaving (index : Nat) (snapshot : Run)
  | finishing
  | failing
  | failed
  | stopping
  | lastSaving (snapshot : Run)
  /-- `execute` has returned, its deferred step removes the entry -/
  | leaving
  | returned
  deriving DecidableEq

inductive Operation
  | pause
  | resume
  | stop
  deriving DecidableEq, Repr

def Operation.ofString : String → Option Operation
  | "pause" => some .pause
  | "resume" => some .resume
  | "stop" => some .stop
  | _ => none

def Operation.status : Operation → RunStatus
  | pause => .paused
  | resume => .running
  | stop => .stopped

/-- How far a call of `Control` has come that has found the run. -/
inductive CallPc
  | entered
  | transitioning
  | saving (snapshot : Run)
  | undoing (e : AppError)
  | cancelling
  | returned (result : Except AppError Unit)

structure Call where
  operation : Operation
  pc : CallPc

/-- A run with its control and all that is under way on it. `resumed` counts how often the channel
of the control was closed and replaced. -/
structure RunState where
  run : Run
  actions : List String
  paused : Bool
  resumed : Nat
  cancelled : Bool
  execute : ExecutePc
  calls : Keyed Nat Call

/-- Who goes on with a run. -/
inductive Thread
  | execute
  | call (k : Nat)
  deriving DecidableEq

namespace RunState

/-- The next turn of the loop over the actions, or its end. -/
def turn (r : RunState) (index : Nat) : ExecutePc :=
  if index < r.actions.length then .checking index else .finishing

/-- A transition that `execute` ends with, whose error it only logs. -/
def last (r : RunState) (now : Nat) (next : RunStatus) : RunState :=
  match transitionRun r.run now next with
  | .error _ | .ok none => { r with execute := .leaving }
  | .ok (some run) => { r with run, execute := .lastSaving run }

/-- The next step of `Run` or `execute`. `ok` says whether a save or an action succeeds; where both
ways out of a wait are open, it is taken as cancelled when `ok` holds. -/
def stepExecute (r : RunState) (now : Nat) (ok : Bool) : RunState :=
  match r.execute with
  | .creating => { r with execute := .createSaving r.run }
  | .createSaving _ =>
    if ok then { r with execute := .starting } else { r with cancelled := true, execute := .discarding }
  | .discarding => { r with execute := .discarded }
  | .starting =>
    match transitionRun r.run now .running with
    -- the deferred removal is not set up yet
    | .error _ => { r with execute := .returned }
    | .ok none => { r with execute := r.turn 0 }
    | .ok (some run) => { r with run, execute := .startSaving run }
  | .startSaving _ => { r with execute := if ok then r.turn 0 else .returned }
  | .checking index =>
    { r with execute := if r.paused then .waiting index r.resumed else .unpaused index }
  | .waiting index generation =>
    if r.cancelled && (ok || r.resumed == generation) then { r with execute := .stopping }
    else if r.resumed != generation then { r with execute := .checking index }
    else r
  | .unpaused index => { r with execute := if r.cancelled then .stopping else .acting index }
  | .acting index =>
    { r with
      execute := if ok then .updating index else if r.cancelled then .stopping else .failing }
  | .updating index =>
    let run := { r.run with completedSteps := index + 1 }
    { r with run, execute := .updateSaving index run }
  | .updateSaving index _ => { r with execute := if ok then r.turn (index + 1) else .leaving }
  | .finishing => r.last now .succeeded
  | .failing =>
    { r with run := { r.run with errorCode := "AUTOMATION_ACTION_FAILED" }, execute := .failed }
  | .failed => r.last now .failed
  | .stopping => r.last now .stopped
  | .lastSaving _ => { r with execute := .leaving }
  | .leaving => { r with execute := .returned }
  | .discarded | .returned => r

/-- A call of `Control` whose lookup has found the run. -/
def enter (operation : Operation) : Call :=
  ⟨operation, if operation = .stop then .transitioning else .entered⟩

/-- Where a call goes once its transition is made and saved. -/
def Operation.done : Operation → CallPc
  | .stop => .cancelling
  | .pause | .resume => .returned (.ok ())

/-- Where a call goes when its transition or the save fails. -/
def Operation.refused (operation : Operation) (e : AppError) : CallPc :=
  if operation = .pause then .undoing e else .returned (.error e)

def setCall (r : RunState) (k : Nat) (call : Call) (pc : CallPc) : RunState :=
  { r with calls := r.calls.insert k { call with pc } }

def stepCall (r : RunState) (now : Nat) (k : Nat) (ok : Bool) : RunState :=
  match r.calls[k]? with
  | none => r
  | some call =>
    match call.pc with
    | .entered =>
      match call.operation with
      | .pause =>
        if r.paused then r.setCall k call (.returned (.ok ()))
        else { r.setCall k call .transitioning with paused := true }
      | .resume =>
        if r.paused then
          { r.setCall k call .transitioning with paused := false, resumed := r.resumed + 1 }
        else r.setCall k call (.returned (.ok ()))
      | .stop => r.setCall k call .transitioning
    | .transitioning =>
      match transitionRun r.run now call.operation.status with
      | .error e => r.setCall k call (Operation.refused call.operation e)
      | .ok none => r.setCall k call (Operation.done call.operation)
      | .ok (some run) => { r.setCall k call (.saving run) with run }
    | .saving _ =>
      r.setCall k call (if ok then Operation.done call.operation
        else Operation.refused call.operation statusSaveFailed)
    | .undoing e => { r.setCall k call (.returned (.error e)) with paused := false }
    | .cancelling => { r.setCall k call (.returned (.ok ())) with cancelled := true }
    | .returned _ => r

/-- One step of one of the threads on the run. -/
def go (r : RunState) (now : Nat) (ok : Bool) : Thread → RunState
  | .execute => r.stepExecute now ok
  | .call k => r.stepCall now k ok

/-- The snapshot that a thread is about to save. -/
def snapshot (r : RunState) : Thread → Option Run
  | .execute =>
    match r.execute with
    | .createSaving snapshot | .startSaving snapshot | .updateSaving _ snapshot
    | .lastSaving snapshot => some snapshot
    | _ => none
  | .call k =>
    match r.calls[k]? with
    | some ⟨_, .saving snapshot⟩ => some snapshot
    | _ => none

/-- `execute` has come to a return. -/
def Returned (r : RunState) : Prop := r.execute = .leaving ∨ r.execute = .returned

/-- The thread is about to remove the run's entry. -/
def releases (r : RunState) (thread : Thread) : Bool :=
  thread = .execute && (r.execute = .leaving || r.execute = .discarding)

end RunState

/-- What a transition does to the status: nothing, or one of the moves that are allowed. -/
theorem transitionRun_cases (run : Run) (now : Nat) (next : RunStatus) :
    (transitionRun run now next = .ok none ∧ run.status = next) ∨
    (transitionRun run now next = .error stateInvalid ∧ run.status ≠ next ∧
      transitions run.status next = false) ∨
    (transitionRun run now next = .ok (some (run.moved now next)) ∧
      transitions run.status next = true) := by
  unfold transitionRun Run.transition
  by_cases hsame : run.status = next
  · exact Or.inl ⟨if_pos hsame, hsame⟩
  · simp only [if_neg hsame]
    cases hmove : transitions run.status next with
    | false => exact Or.inr (Or.inl ⟨rfl, hsame, rfl⟩)
    | true => exact Or.inr (Or.inr ⟨rfl, rfl⟩)

/-- The end that `execute` takes a run to. -/
def ExecutePc.end? : ExecutePc → Option RunStatus
  | .finishing => some .succeeded
  | .failed => some .failed
  | .stopping => some .stopped
  | _ => none

/-- The places where `execute` may find the run cancelled. -/
def ExecutePc.heeds : ExecutePc → Bool
  | .waiting _ _ | .unpaused _ | .acting _ => true
  | _ => false

namespace RunState

/-- How `Run` and `execute` can move: every step is one of these. -/
inductive Advances (r : RunState) (now : Nat) (ok : Bool) : RunState → Prop
  | creates (h : r.execute = .creating) :
    Advances r now ok { r with execute := .createSaving r.run }
  | created {snapshot : Run} (h : r.execute = .createSaving snapshot) (hok : ok = true) :
    Advances r now ok { r with execute := .starting }
  | drops {snapshot : Run} (h : r.execute = .createSaving snapshot) (hok : ok = false) :
    Advances r now ok { r with cancelled := true, execute := .discarding }
  | discards (h : r.execute = .discarding) : Advances r now ok { r with execute := .discarded }
  | refused (h : r.execute = .starting) (hsame : r.run.status ≠ .running)
    (hno : transitions r.run.status .running = false) :
    Advances r now ok { r with execute := .returned }
  | runs (h : r.execute = .starting) (hsame : r.run.status = .running) :
    Advances r now ok { r with execute := r.turn 0 }
  | starts (h : r.execute = .starting) (hyes : transitions r.run.status .running = true) :
    Advances r now ok { r with
      run := r.run.moved now .running, execute := .startSaving (r.run.moved now .running) }
  | started {snapshot : Run} (h : r.execute = .startSaving snapshot) (hok : ok = true) :
    Advances r now ok { r with execute := r.turn 0 }
  | unstarted {snapshot : Run} (h : r.execute = .startSaving snapshot) (hok : ok = false) :
    Advances r now ok { r with execute := .returned }
  | looks {index : Nat} {pc : ExecutePc} (h : r.execute = .checking index)
    (hpc : pc = .waiting index r.resumed ∨ pc = .unpaused index) :
    Advances r now ok { r with execute := pc }
  | wakes {index generation : Nat} (h : r.execute = .waiting index generation) :
    Advances r now ok { r with execute := .checking index }
  | heeds (h : r.execute.heeds = true) (hcancelled : r.cancelled = true) :
    Advances r now ok { r with execute := .stopping }
  | acts {index : Nat} (h : r.execute = .unpaused index) :
    Advances r now ok { r with execute := .acting index }
  | acted {index : Nat} {pc : ExecutePc} (h : r.execute = .acting index)
    (hpc : pc = .updating index ∨ pc = .failing) : Advances r now ok { r with execute := pc }
  | updates {index : Nat} (h : r.execute = .updating index) :
    Advances r now ok { r with
      run := { r.run with completedSteps := index + 1 }
      execute := .updateSaving index { r.run with completedSteps := index + 1 } }
  | updated {index : Nat} {snapshot : Run} (h : r.execute = .updateSaving index snapshot)
    (hok : ok = true) : Advances r now ok { r with execute := r.turn (index + 1) }
  | unsaved {index : Nat} {snapshot : Run} (h : r.execute = .updateSaving index snapshot)
    (hok : ok = false) : Advances r now ok { r with execute := .leaving }
  | marks (h : r.execute = .failing) :
    Advances r now ok { r with
      run := { r.run with errorCode := "AUTOMATION_ACTION_FAILED" }, execute := .failed }
  | ends {next : RunStatus} (h : r.execute.end? = some next)
    (hno : r.run.status = next ∨ transitions r.run.status next = false) :
    Advances r now ok { r with execute := .leaving }
  | saves {next : RunStatus} (h : r.execute.end? = some next)
    (hyes : transitions r.run.status next = true) :
    Advances r now ok { r with
      run := r.run.moved now next, execute := .lastSaving (r.run.moved now next) }
  | leaves {snapshot : Run} (h : r.execute = .lastSaving snapshot) :
    Advances r now ok { r with execute := .leaving }
  | releases (h : r.execute = .leaving) : Advances r now ok { r with execute := .returned }
  | rests (h : r.execute.heeds = true ∨ r.execute = .discarded ∨ r.execute = .returned) :
    Advances r now ok r

theorem last_advances {r : RunState} {now : Nat} {ok : Bool} {next : RunStatus}
    (h : r.execute.end? = some next) : r.Advances now ok (r.last now next) := by
  unfold last
  rcases transitionRun_cases r.run now next with ⟨he, hsame⟩ | ⟨he, -, hno⟩ | ⟨he, hyes⟩
  · rw [he]
    exact .ends h (Or.inl hsame)
  · rw [he]
    exact .ends h (Or.inr hno)
  · rw [he]
    exact .saves h hyes

theorem stepExecute_advances (r : RunState) (now : Nat) (ok : Bool) :
    r.Advances now ok (r.stepExecute now ok) := by
  unfold stepExecute
  cases hpc : r.execute with
  | creating => exact .creates hpc
  | createSaving snapshot =>
    cases ok with
    | true => exact .created hpc rfl
    | false => exact .drops hpc rfl
  | discarding => exact .discards hpc
  | discarded => exact .rests (Or.inr (Or.inl hpc))
  | starting =>
    rcases transitionRun_cases r.run now .running with ⟨he, hsame⟩ | ⟨he, hne, hno⟩ | ⟨he, hyes⟩
    · simp only [he]
      exact .runs hpc hsame
    · simp only [he]
      exact .refused hpc hne hno
    · simp only [he]
      exact .starts hpc hyes
  | startSaving snapshot =>
    cases ok with
    | true => exact .started hpc rfl
    | false => exact .unstarted hpc rfl
  | checking index =>
    refine .looks hpc ?_
    split_ifs
    · exact Or.inl rfl
    · exact Or.inr rfl
  | waiting index generation =>
    have heeds : r.execute.heeds = true := by rw [hpc]; rfl
    simp only
    split_ifs with hcancelled hresumed
    · rw [Bool.and_eq_true] at hcancelled
      exact .heeds heeds hcancelled.1
    · exact .wakes hpc
    · exact .rests (Or.inl heeds)
  | unpaused index =>
    have heeds : r.execute.heeds = true := by rw [hpc]; rfl
    simp only
    split_ifs with hcancelled
    · exact .heeds heeds hcancelled
    · exact .acts hpc
  | acting index =>
    have heeds : r.execute.heeds = true := by rw [hpc]; rfl
    simp only
    split_ifs with hok hcancelled
    · exact .acted hpc (Or.inl rfl)
    · exact .heeds heeds hcancelled
    · exact .acted hpc (Or.inr rfl)
  | updating index => exact .updates hpc
  | updateSaving index snapshot =>
    cases ok with
    | true => exact .updated hpc rfl
    | false => exact .unsaved hpc rfl
  | finishing => exact last_advances (by rw [hpc]; rfl)
  | failing => exact .marks hpc
  | failed => exact last_advances (by rw [hpc]; rfl)
  | stopping => exact last_advances (by rw [hpc]; rfl)
  | lastSaving snapshot => exact .leaves hpc
  | leaving => exact .releases hpc
  | returned => exact .rests (Or.inr (Or.inr hpc))

/-- How a call of `Control` can move. -/
inductive CallAdvances (r : RunState) (now : Nat) (ok : Bool) (k : Nat) : RunState → Prop
  | rests : CallAdvances r now ok k r
  | answered {call : Call} (h : r.calls[k]? = some call) (hpc : call.pc = .entered) :
    CallAdvances r now ok k (r.setCall k call (.returned (.ok ())))
  | enters {call : Call} {paused : Bool} {resumed : Nat} (h : r.calls[k]? = some call)
    (hpc : call.pc = .entered) :
    CallAdvances r now ok k { r.setCall k call .transitioning with paused, resumed }
  | idles {call : Call} (h : r.calls[k]? = some call) (hpc : call.pc = .transitioning)
    (hsame : r.run.status = call.operation.status) :
    CallAdvances r now ok k (r.setCall k call (Operation.done call.operation))
  | refused {call : Call} (h : r.calls[k]? = some call) (hpc : call.pc = .transitioning) :
    CallAdvances r now ok k (r.setCall k call (Operation.refused call.operation stateInvalid))
  | moves {call : Call} (h : r.calls[k]? = some call) (hpc : call.pc = .transitioning)
    (hyes : transitions r.run.status call.operation.status = true) :
    CallAdvances r now ok k { r.setCall k call (.saving (r.run.moved now call.operation.status)) with
      run := r.run.moved now call.operation.status }
  | saved {call : Call} {snapshot : Run} (h : r.calls[k]? = some call)
    (hpc : call.pc = .saving snapshot) (hok : ok = true) :
    CallAdvances r now ok k (r.setCall k call (Operation.done call.operation))
  | unsaved {call : Call} {snapshot : Run} (h : r.calls[k]? = some call)
    (hpc : call.pc = .saving snapshot) (hok : ok = false) :
    CallAdvances r now ok k (r.setCall k call (Operation.refused call.operation statusSaveFailed))
  | undoes {call : Call} {e : AppError} (h : r.calls[k]? = some call) (hpc : call.pc = .undoing e) :
    CallAdvances r now ok k { r.setCall k call (.returned (.error e)) with paused := false }
  | cancels {call : Call} (h : r.calls[k]? = some call) (hpc : call.pc = .cancelling) :
    CallAdvances r now ok k { r.setCall k call (.returned (.ok ())) with cancelled := true }

theorem stepCall_advances (r : RunState) (now : Nat) (k : Nat) (ok : Bool) :
    r.CallAdvances now ok k (r.stepCall now k ok) := by
  unfold stepCall
  cases hcall : r.calls[k]? with
  | none => exact .rests
  | some call =>
    cases hpc : call.pc with
    | entered =>
      simp only [hpc]
      cases hop : call.operation with
      | pause =>
        split_ifs
        · exact .answered hcall hpc
        · exact .enters hcall hpc
      | resume =>
        split_ifs
        · exact .enters hcall hpc
        · exact .answered hcall hpc
      | stop => exact .enters hcall hpc
    | transitioning =>
      simp only [hpc]
      rcases transitionRun_cases r.run now call.operation.status with
        ⟨he, hsame⟩ | ⟨he, -, -⟩ | ⟨he, hyes⟩
      · rw [he]
        exact .idles hcall hpc hsame
      · rw [he]
        exact .refused hcall hpc
      · rw [he]
        exact .moves hcall hpc hyes
    | saving snapshot =>
      simp only [hpc]
      cases ok with
      | true => exact .saved hcall hpc rfl
      | false => exact .unsaved hcall hpc rfl
    | undoing e =>
      simp only [hpc]
      exact .undoes hcall hpc
    | cancelling =>
      simp only [hpc]
      exact .cancels hcall hpc
    | returned result =>
      simp only [hpc]
      exact .rests

variable {r r' : RunState} {now k : Nat} {ok : Bool}

theorem Advances.calls (h : r.Advances now ok r') : r'.calls = r.calls := by
  cases h <;> rfl

theorem CallAdvances.execute (h : r.CallAdvances now ok k r') : r'.execute = r.execute := by
  cases h <;> rfl

/-- A call leaves the other calls alone. -/
theorem CallAdvances.others (h : r.CallAdvances now ok k r') {j : Nat} (hj : j ≠ k) :
    r'.calls[j]? = r.calls[j]? := by
  cases h with
  | rests => rfl
  | _ => simp [setCall, hj]

/-- A run stays under its id, and with its task. -/
theorem go_same (r : RunState) (now : Nat) (ok : Bool) (thread : Thread) :
    (r.go now ok thread).run.id = r.run.id ∧ (r.go now ok thread).run.taskID = r.run.taskID := by
  have execute {r' : RunState} (h : r.Advances now ok r') :
      r'.run.id = r.run.id ∧ r'.run.taskID = r.run.taskID := by
    cases h <;> exact ⟨rfl, rfl⟩
  have call {k : Nat} {r' : RunState} (h : r.CallAdvances now ok k r') :
      r'.run.id = r.run.id ∧ r'.run.taskID = r.run.taskID := by
    cases h <;> exact ⟨rfl, rfl⟩
  cases thread with
  | execute => exact execute (r.stepExecute_advances now ok)
  | call k => exact call (r.stepCall_advances now k ok)

theorem go_id (r : RunState) (now : Nat) (ok : Bool) (thread : Thread) :
    (r.go now ok thread).run.id = r.run.id :=
  (r.go_same now ok thread).1

end RunState

end AdbControl.Automation
