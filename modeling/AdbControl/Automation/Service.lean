import AdbControl.Automation.RunControl
import AdbControl.Framework.Run

namespace AdbControl.Automation

open Framework

abbrev TaskStore := Keyed String Task

def taskInvalid : AppError :=
  ⟨"AUTOMATION_TASK_INVALID", "自动化任务定义无效", "automation.validation", true, none⟩

def taskSaveFailed : AppError :=
  ⟨"AUTOMATION_SAVE_FAILED", "保存自动化任务失败", "automation.repository", true, none⟩

def identifierFailed : AppError :=
  ⟨"AUTOMATION_ID_FAILED", "无法生成自动化标识", "automation.runtime", false, none⟩

def taskNotFound : AppError :=
  ⟨"AUTOMATION_TASK_NOT_FOUND", "自动化任务不存在", "automation.repository", true, none⟩

def concurrencySkipped : AppError :=
  ⟨"AUTOMATION_CONCURRENCY_SKIPPED", "任务已有运行实例", "automation.runtime", true, none⟩

def runNotActive : AppError :=
  ⟨"AUTOMATION_RUN_NOT_ACTIVE", "运行实例当前不可控制", "automation.runtime", true, none⟩

def controlInvalid : AppError :=
  ⟨"AUTOMATION_CONTROL_INVALID", "不支持的运行控制操作", "automation.runtime", true, none⟩

/-- `hex.EncodeToString`. -/
def hex (bytes : List UInt8) : List Char :=
  bytes.flatMap (fun b => [(b.toNat / 16).digitChar, (b.toNat % 16).digitChar])

/-- An identifier from eight random bytes, if there are any. -/
def identifier (kind : String) (buffer : Option (Vector UInt8 8)) : Except AppError String :=
  match buffer with
  | none => .error identifierFailed
  | some bytes => .ok (String.ofList (kind.toList ++ '-' :: hex bytes.toList))

/-- The id of a run's task, read off the run's id: all before the first colon. -/
def activeTask (runID : String) : String :=
  if ':' ∈ runID.toList then String.ofList (runID.toList.takeWhile (fun c => c != ':')) else ""

/-- `Service.Save`; `saved` says whether the repository takes the task. -/
def save (tasks : TaskStore) (now : Nat) (buffer : Option (Vector UInt8 8)) (saved : Bool)
    (task : Task) : TaskStore × Except AppError Task :=
  match validate task with
  | .error _ => (tasks, .error taskInvalid)
  | .ok () =>
    match if task.id = "" then identifier "task" buffer else .ok task.id with
    | .error e => (tasks, .error e)
    | .ok id =>
      let task := { task with
        id
        createdAt := if task.id = "" then now else task.createdAt
        schemaVersion := if task.schemaVersion = 0 then 1 else task.schemaVersion
        concurrencyPolicy := if task.concurrencyPolicy = "" then "skip" else task.concurrencyPolicy
        updatedAt := now }
      if saved then (tasks.insert task.id task, .ok task) else (tasks, .error taskSaveFailed)

/-- The handler that saves a task: the id of the path, if there is one, is the task's. -/
def saveTask (tasks : TaskStore) (now : Nat) (buffer : Option (Vector UInt8 8)) (saved : Bool)
    (pathID : String) (task : Task) : TaskStore × Except AppError Task :=
  save tasks now buffer saved (if pathID = "" then task else { task with id := pathID })

/-- The service: the map of the controls, all runs ever begun and what is under way on them, and
the rows of the repository. -/
structure ServiceState where
  now : Nat
  controls : Keyed String Nat
  runs : Keyed Nat RunState
  rows : Keyed String Run

inductive ServiceAct
  | elapse (duration : Nat)
  | run (n : Nat) (taskID : String) (buffer : Option (Vector UInt8 8))
  | control (k : Nat) (runID operation : String)
  | go (n : Nat) (thread : Thread) (ok : Bool)

/-- A run as it is when its control enters the map. -/
def RunState.fresh (id taskID : String) (actions : List String) : RunState where
  run := ⟨id, taskID, .queued, 0, actions.length, "", none, none⟩
  actions := actions
  paused := false
  resumed := 0
  cancelled := false
  execute := .creating
  calls := ∅

def RunState.begin (r : RunState) (k : Nat) (operation : Operation) : RunState :=
  { r with calls := r.calls.insert k (enter operation) }

namespace ServiceState

/-- The service of a process that finds these rows. -/
def start (rows : Keyed String Run) : ServiceState := ⟨0, ∅, ∅, rows⟩

/-- A run in the map counts as one of the task. -/
def busy (s : ServiceState) (taskID : String) : Bool :=
  s.controls.keys.any (fun runID => 0 < runID.length && activeTask runID == taskID)

/-- `Service.Run` up to the entry in the map; the rest of it is the run's own. -/
def beginRun (tasks : TaskStore) (s : ServiceState) (n : Nat) (taskID : String)
    (buffer : Option (Vector UInt8 8)) : ServiceState × Except AppError Unit :=
  match tasks[taskID]? with
  | none => (s, .error taskNotFound)
  | some task =>
    if task.concurrencyPolicy = "skip" ∧ s.busy taskID = true then (s, .error concurrencySkipped)
    else
      match identifier "run" buffer with
      | .error e => (s, .error e)
      | .ok runIdentifier =>
        let id := taskID ++ ":" ++ runIdentifier
        ({ s with
          controls := s.controls.insert id n
          runs := s.runs.insert n (.fresh id taskID task.actions) }, .ok ())

/-- `Service.Control` up to the control of the run. -/
def findControl (s : ServiceState) (runID operation : String) : Except AppError (Nat × Operation) :=
  match s.controls[runID]? with
  | none => .error runNotActive
  | some n =>
    match Operation.ofString operation with
    | none => .error controlInvalid
    | some operation => .ok (n, operation)

/-- What a thread of a run does to the rows: a save that succeeds stores its snapshot. -/
def saveRun (rows : Keyed String Run) (snapshot : Option Run) (ok : Bool) : Keyed String Run :=
  match snapshot with
  | none => rows
  | some run => if ok then rows.insert run.id run else rows

def step (tasks : TaskStore) (s : ServiceState) : ServiceAct → ServiceState
  | .elapse duration => { s with now := s.now + duration }
  | .run n taskID buffer => if n ∈ s.runs then s else (s.beginRun tasks n taskID buffer).1
  | .control k runID operation =>
    match s.findControl runID operation with
    | .error _ => s
    | .ok (n, operation) =>
      match s.runs[n]? with
      | none => s
      | some r => if k ∈ r.calls then s else { s with runs := s.runs.insert n (r.begin k operation) }
  | .go n thread ok =>
    match s.runs[n]? with
    | none => s
    | some r =>
      { s with
        runs := s.runs.insert n (r.go s.now ok thread)
        rows := saveRun s.rows (r.snapshot thread) ok
        controls := if r.releases thread then s.controls.erase r.run.id else s.controls }

variable {tasks : TaskStore} {s : ServiceState}

/-- A start does nothing to the runs, or begins a run of a stored task under an id of its own. -/
theorem beginRun_cases (tasks : TaskStore) (s : ServiceState) (n : Nat) (taskID : String)
    (buffer : Option (Vector UInt8 8)) :
    (∃ e, s.beginRun tasks n taskID buffer = (s, .error e)) ∨
    ∃ (task : Task) (runIdentifier : String), tasks[taskID]? = some task ∧
      (task.concurrencyPolicy = "skip" → s.busy taskID = false) ∧
      identifier "run" buffer = .ok runIdentifier ∧
      s.beginRun tasks n taskID buffer =
        ({ s with
          controls := s.controls.insert (taskID ++ ":" ++ runIdentifier) n
          runs := s.runs.insert n
            (.fresh (taskID ++ ":" ++ runIdentifier) taskID task.actions) }, .ok ()) := by
  unfold beginRun
  cases htask : tasks[taskID]? with
  | none => exact Or.inl ⟨_, rfl⟩
  | some task =>
    by_cases hskip : task.concurrencyPolicy = "skip" ∧ s.busy taskID = true
    · simp only [if_pos hskip]
      exact Or.inl ⟨_, rfl⟩
    · simp only [if_neg hskip]
      cases hid : identifier "run" buffer with
      | error e => exact Or.inl ⟨_, rfl⟩
      | ok runIdentifier =>
        refine Or.inr ⟨task, runIdentifier, rfl, ?_, rfl, rfl⟩
        intro hpolicy
        rw [not_and, Bool.not_eq_true] at hskip
        exact hskip hpolicy

/-- What a step can do: at most time passes, a run of a stored task begins, a call of `Control` enters
the run it has found, or a thread of a run goes on. -/
inductive Steps (tasks : TaskStore) (s : ServiceState) : ServiceAct → ServiceState → Prop
  | idles (act : ServiceAct) (now : Nat) : Steps tasks s act { s with now }
  | begins {n : Nat} {taskID : String} {buffer : Option (Vector UInt8 8)} {task : Task}
    {runIdentifier : String} (hn : s.runs[n]? = none) (htask : tasks[taskID]? = some task)
    (hskip : task.concurrencyPolicy = "skip" → s.busy taskID = false)
    (hid : identifier "run" buffer = .ok runIdentifier) :
    Steps tasks s (.run n taskID buffer) { s with
      controls := s.controls.insert (taskID ++ ":" ++ runIdentifier) n
      runs := s.runs.insert n (.fresh (taskID ++ ":" ++ runIdentifier) taskID task.actions) }
  | enters {n k : Nat} {runID operation : String} {op : Operation} {r : RunState}
    (hfind : s.findControl runID operation = .ok (n, op)) (hr : s.runs[n]? = some r)
    (hk : k ∉ r.calls) :
    Steps tasks s (.control k runID operation) { s with runs := s.runs.insert n (r.begin k op) }
  | goes {n : Nat} {thread : Thread} {ok : Bool} {r : RunState} (hr : s.runs[n]? = some r) :
    Steps tasks s (.go n thread ok) { s with
      runs := s.runs.insert n (r.go s.now ok thread)
      rows := saveRun s.rows (r.snapshot thread) ok
      controls := if r.releases thread then s.controls.erase r.run.id else s.controls }

theorem step_steps (tasks : TaskStore) (s : ServiceState) (act : ServiceAct) :
    Steps tasks s act (step tasks s act) := by
  cases act with
  | elapse duration => exact .idles _ (s.now + duration)
  | run n taskID buffer =>
    by_cases hn : n ∈ s.runs
    · simp only [step, if_pos hn]
      exact .idles _ s.now
    · simp only [step, if_neg hn]
      rcases s.beginRun_cases tasks n taskID buffer with
        ⟨e, he⟩ | ⟨task, runID, htask, hskip, hid, he⟩
      · rw [he]
        exact .idles _ s.now
      · rw [he]
        exact .begins (by simpa using hn) htask hskip hid
  | control k runID operation =>
    simp only [step]
    cases hfind : s.findControl runID operation with
    | error e => exact .idles _ s.now
    | ok found =>
      obtain ⟨n, op⟩ := found
      simp only []
      cases hr : s.runs[n]? with
      | none => exact .idles _ s.now
      | some r =>
        by_cases hk : k ∈ r.calls
        · simp only [if_pos hk]
          exact .idles _ s.now
        · simp only [if_neg hk]
          exact .enters hfind hr hk
  | go n thread ok =>
    cases hr : s.runs[n]? with
    | none =>
      simp only [step, hr]
      exact .idles _ s.now
    | some r =>
      simp only [step, hr]
      exact .goes hr

/-- The rule for what holds of every run: it holds of a run that begins, and a call that enters and
a thread that goes on keep it. -/
theorem runs_step {P : RunState → Prop} (act : ServiceAct)
    (h : ∀ (n : Nat) (r : RunState), s.runs[n]? = some r → P r)
    (fresh : ∀ id taskID actions, P (.fresh id taskID actions))
    (begins : ∀ r k operation, P r → k ∉ r.calls → P (r.begin k operation))
    (goes : ∀ n thread ok r, act = .go n thread ok → s.runs[n]? = some r → P r →
      P (r.go s.now ok thread)) :
    ∀ (n : Nat) (r : RunState), (step tasks s act).runs[n]? = some r → P r := by
  have write {m : Nat} {r' : RunState} (hr' : P r') :
      ∀ (n : Nat) (r : RunState), (s.runs.insert m r')[n]? = some r → P r :=
    Keyed.forall_insert h hr'
  have hsteps := step_steps tasks s act
  generalize step tasks s act = s' at hsteps
  cases hsteps with
  | idles => exact h
  | begins => exact write (fresh _ _ _)
  | @enters m k _ _ op r _ hr hk => exact write (begins r k op (h m r hr) hk)
  | @goes m thread ok r hr => exact write (goes m thread ok r rfl hr (h m r hr))

/-- No two runs have one id. -/
def Distinct (runs : Keyed Nat RunState) : Prop :=
  ∀ (m k : Nat) (r r' : RunState), runs[m]? = some r → runs[k]? = some r' →
    r.run.id = r'.run.id → m = k

/-- No run begins under an id that another has had. -/
def Fresh (s : ServiceState) : ServiceAct → Prop
  | .run _ taskID buffer => ∀ runIdentifier, identifier "run" buffer = .ok runIdentifier →
    ∀ (k : Nat) (r : RunState), s.runs[k]? = some r → r.run.id ≠ taskID ++ ":" ++ runIdentifier
  | _ => True

theorem distinct_start (rows : Keyed String Run) : Distinct (start rows).runs := by
  intro m k r r' hm
  simp [start] at hm

/-- The ids stay distinct where a run is written whose id no other has. -/
theorem distinct_insert {runs : Keyed Nat RunState} (h : Distinct runs) {m : Nat} {r : RunState}
    (hother : ∀ (k : Nat) (other : RunState), k ≠ m → runs[k]? = some other →
      other.run.id ≠ r.run.id) : Distinct (runs.insert m r) := by
  intro i j one two hi hj hid
  rw [Keyed.lookup_insert] at hi hj
  split_ifs at hi hj with him hjm hjm
  · rw [him, hjm]
  · cases hi
    exact (hother j two hjm hj hid.symm).elim
  · cases hj
    exact (hother i one him hi hid).elim
  · exact h i j one two hi hj hid

/-- A run that is written in the place of one with its id leaves the ids distinct. -/
theorem distinct_write {runs : Keyed Nat RunState} (h : Distinct runs) {m : Nat} {r r' : RunState}
    (hr : runs[m]? = some r) (hid : r'.run.id = r.run.id) : Distinct (runs.insert m r') := by
  apply distinct_insert h
  intro k other hk hother he
  exact hk (h k m other r hother hr (he.trans hid))

theorem distinct_step {s' : ServiceState} {act : ServiceAct} (h : Distinct s.runs)
    (hfresh : s.Fresh act) (hsteps : Steps tasks s act s') : Distinct s'.runs := by
  cases hsteps with
  | idles => exact h
  | begins hn htask hskip hid =>
    exact distinct_insert h (fun k other _ hother => hfresh _ hid k other hother)
  | @enters m k _ _ op r _ hr => exact distinct_write h hr rfl
  | @goes m thread ok r hr => exact distinct_write h hr (r.go_id s.now ok thread)

/-- A stored task of one action. -/
def oneAction : Task where
  schemaVersion := 1
  id := "t"
  name := "t"
  concurrencyPolicy := "skip"
  permissions := ⟨false, false, false, false⟩
  triggers := ["manual"]
  actions := ["log"]
  createdAt := 0
  updatedAt := 0

def oneTask : TaskStore := (∅ : TaskStore).insert "t" oneAction

/-- The task starts, and its only action is under way. -/
def lastActionRuns : List ServiceAct :=
  .run 0 "t" (some (.replicate 8 0)) :: List.replicate 6 (.go 0 .execute true)

end ServiceState

end AdbControl.Automation
