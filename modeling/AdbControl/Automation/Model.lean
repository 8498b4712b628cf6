import AdbControl.Error
import AdbControl.Framework.Keyed
import AdbControl.Framework.Text

namespace AdbControl.Automation

open Framework

structure Permissions where
  allowADB : Bool
  allowShell : Bool
  allowCompanion : Bool
  allowAI : Bool
  deriving DecidableEq, Repr

/-- A task. What only its actions, its triggers or its readers use is left out: the description,
the device, the switch, and the parameters of a trigger or an action, which stand for their type
alone. -/
structure Task where
  schemaVersion : Nat
  id : String
  name : String
  concurrencyPolicy : String
  permissions : Permissions
  triggers : List String
  actions : List String
  createdAt : Nat
  updatedAt : Nat
  deriving DecidableEq, Repr

inductive InvalidTask
  | nameRequired
  | triggerOrActionRequired
  | unsupportedTrigger (type : String)
  | unsupportedAction (type : String)
  | requiresADB (type : String)
  | requiresShell
  | requiresCompanion
  | requiresAI
  deriving DecidableEq, Repr

def triggerTypes : List String := ["manual", "daily", "weekly", "interval", "cron", "condition"]

def actionTypes : List String :=
  ["log", "delay", "device.action", "adb.command", "adb.shell", "companion.call", "ai.prompt",
    "condition", "parallel", "loop"]

def validateTrigger (type : String) : Except InvalidTask Unit :=
  if type ∈ triggerTypes then .ok () else .error (.unsupportedTrigger type)

def validateAction (permissions : Permissions) (type : String) : Except InvalidTask Unit :=
  if type ∉ actionTypes then .error (.unsupportedAction type)
  else if startsWith type "adb." && !permissions.allowADB then .error (.requiresADB type)
  else if type = "adb.shell" && !permissions.allowShell then .error .requiresShell
  else if type = "companion.call" && !permissions.allowCompanion then .error .requiresCompanion
  else if type = "ai.prompt" && !permissions.allowAI then .error .requiresAI
  else .ok ()

/-- `Validate`: the id of a task is not looked at. -/
def validate (task : Task) : Except InvalidTask Unit := do
  if isBlank task.name then throw .nameRequired
  if task.triggers.isEmpty || task.actions.isEmpty then throw .triggerOrActionRequired
  task.triggers.forM validateTrigger
  task.actions.forM (validateAction task.permissions)

inductive RunStatus
  | queued
  | running
  | paused
  | succeeded
  | failed
  | stopped
  | skipped
  deriving DecidableEq, Repr

def transitions : RunStatus → RunStatus → Bool
  | .queued, .running | .queued, .stopped | .queued, .skipped => true
  | .running, .paused | .running, .succeeded | .running, .failed | .running, .stopped => true
  | .paused, .running | .paused, .failed | .paused, .stopped => true
  | _, _ => false

/-- A run. Its progress is left out, which is computed from the two counts of steps. -/
structure Run where
  id : String
  taskID : String
  status : RunStatus
  completedSteps : Nat
  totalSteps : Nat
  errorCode : String
  startedAt : Option Nat
  finishedAt : Option Nat
  deriving DecidableEq, Repr

/-- `Transition` to a status that `transitions` allows. -/
def Run.moved (run : Run) (now : Nat) (next : RunStatus) : Run :=
  { run with
    status := next
    startedAt := if next = .running ∧ run.startedAt = none then some now else run.startedAt
    finishedAt :=
      if next = .succeeded ∨ next = .failed ∨ next = .stopped ∨ next = .skipped then some now
      else run.finishedAt }

def Run.transition (run : Run) (now : Nat) (next : RunStatus) : Option Run :=
  if transitions run.status next then some (run.moved now next) else none

/-- The statuses in which a run has come to its end. -/
def RunStatus.Ended (status : RunStatus) : Prop :=
  status = .succeeded ∨ status = .failed ∨ status = .stopped

instance (status : RunStatus) : Decidable status.Ended :=
  inferInstanceAs (Decidable (_ ∨ _ ∨ _))

/-- Nothing leads out of an ended status. -/
theorem transitions_of_ended {status : RunStatus} (h : status.Ended) (next : RunStatus) :
    transitions status next = false := by
  rcases h with rfl | rfl | rfl <;> cases next <;> rfl

/-- Nothing leads back to the queue. -/
theorem transitions_queued (status : RunStatus) : transitions status .queued = false := by
  cases status <;> rfl

end AdbControl.Automation
