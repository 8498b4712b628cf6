import AdbControl.Server.DeviceAction

namespace AdbControl.Automation

open Framework Server.DeviceAction

structure Action where
  type : String
  parameters : Value

/-- A task with the device that its actions are executed on, and their parameters. -/
structure ExecutableTask where
  stored : Task
  deviceID : String
  actions : List Action
  types : stored.actions = actions.map Action.type

/-- What the executor meets; `decodeRequest` takes the parameters of a device action through JSON,
and `truncate` is `int(value)` of a floating-point number. -/
structure ExecutorEnv extends DeviceEnv where
  decodeRequest : Value → Option ActionRequest
  truncate : String → Int

def delayInvalid : AppError :=
  ⟨"AUTOMATION_DELAY_INVALID", "延时参数必须是毫秒整数", "automation.executor", true, none⟩

def delayOutOfRange : AppError :=
  ⟨"AUTOMATION_DELAY_INVALID", "延时范围必须在 0 到 86400000 毫秒之间", "automation.executor", true, none⟩

def adbArgsInvalid : AppError :=
  ⟨"AUTOMATION_ADB_ARGS_INVALID", "ADB 参数数组无效", "automation.executor", true, none⟩

def shellCommandInvalid : AppError :=
  ⟨"AUTOMATION_SHELL_COMMAND_INVALID", "ADB Shell 命令不能为空", "automation.executor", true, none⟩

def actionUnsupported (type : String) : AppError :=
  ⟨"AUTOMATION_ACTION_UNSUPPORTED", "自动化动作尚未配置执行器", "automation.executor", false,
    some ("不支持的动作：" ++ type)⟩

/-- `strconv.Atoi`: a sign at most, and digits. -/
def atoi (text : List Char) : Option Int :=
  let digits (l : List Char) : Option Nat :=
    if l ≠ [] ∧ l.all isAsciiDigit then
      some (l.foldl (fun n c => 10 * n + (c.toNat - '0'.toNat)) 0)
    else none
  let value : Option Int :=
    match text with
    | '-' :: rest => (digits rest).map (fun n => -(n : Int))
    | '+' :: rest => (digits rest).map Int.ofNat
    | rest => (digits rest).map Int.ofNat
  value.filter (fun n => -(2^63) ≤ n ∧ n < 2^63)

def number (truncate : String → Int) : Value → Option Int
  | .number (.posInt n) => some n
  | .number (.negInt n) => some n
  | .number (.float text) => some (truncate text)
  | .string s => atoi s.toList
  | _ => none

def stringSlice : Value → Option (List String)
  | .array items => items.mapM Value.asStr
  | _ => none

/-- `action.Parameters[key]`; an absent member is `nil`. -/
def Action.parameter (action : Action) (key : String) : Value :=
  (action.parameters.get? key).getD .null

variable (env : ExecutorEnv)

def executeAutomationAction (task : ExecutableTask) (action : Action) :
    Sending Effect (Answer Unit) :=
  match action.type with
  | "log" => pure (.ok ())
  | "delay" =>
    match number env.truncate (action.parameter "milliseconds") with
    | none => pure (.error (.app delayInvalid ""))
    | some milliseconds =>
      if milliseconds < 0 ∨ 86400000 < milliseconds then pure (.error (.app delayOutOfRange ""))
      else do
        let sent ← get
        pure (if env.cancelled sent then .error .cancelled else .ok ())
  | "device.action" =>
    match env.decodeRequest action.parameters with
    | none => pure (.error .undecodable)
    | some request => Server.DeviceAction.action env.toDeviceEnv task.deviceID request
  | "adb.command" =>
    match stringSlice (action.parameter "args") with
    | none => pure (.error (.app adbArgsInvalid ""))
    | some args => do
      let answer ← exec env.toDeviceEnv (deviceArgs task.deviceID args)
      pure (answer.map (fun _ => ()))
  | "adb.shell" =>
    match (action.parameter "command").asStr with
    | none => pure (.error (.app shellCommandInvalid ""))
    | some command =>
      if command = "" then pure (.error (.app shellCommandInvalid ""))
      else do
        let answer ← exec env.toDeviceEnv (deviceArgs task.deviceID ["shell", command])
        pure (answer.map (fun _ => ()))
  | "companion.call" => do
    send (.invoke task.deviceID (action.parameter "capabilityId") (action.parameter "operation")
      (action.parameter "args"))
    let sent ← get
    pure (env.invoke sent)
  | type => pure (.error (.app (actionUnsupported type) ""))

/-- The loop over the actions of a task, as far as it comes. -/
def executeActions (task : ExecutableTask) : List Action → Sending Effect (Answer Unit)
  | [] => pure (.ok ())
  | action :: rest => do
    match ← executeAutomationAction env task action with
    | .error e => pure (.error e)
    | .ok () => executeActions task rest

/-- All that the execution of a task sends. -/
def executed (task : ExecutableTask) : List Effect :=
  ((executeActions env task task.actions).run []).2

/-- The arguments of the event of `input` that a device action of the task stands for. -/
def InputArgs (task : ExecutableTask) (args : List String) : Prop :=
  ∃ action ∈ task.actions, action.type = "device.action" ∧
    ∃ request, env.decodeRequest action.parameters = some request ∧
      actionArguments task.deviceID request = .ok args

/-- The arguments that an `adb.command` of the task gives itself. -/
def CommandArgs (task : ExecutableTask) (args : List String) : Prop :=
  ∃ action ∈ task.actions, action.type = "adb.command" ∧
    ∃ words, stringSlice (action.parameter "args") = some words ∧
      args = deviceArgs task.deviceID words

/-- The arguments of an `adb.shell` of the task. -/
def ShellArgs (task : ExecutableTask) (args : List String) : Prop :=
  ∃ action ∈ task.actions, action.type = "adb.shell" ∧
    ∃ command, args = deviceArgs task.deviceID ["shell", command]

/-- The text of a request for text has nothing in it that a shell reads in another way. -/
def PlainText (request : ActionRequest) : Prop :=
  request.type = "text" → ∀ c ∈ request.text.toList, Shell.isPlain c = true ∨ c = ' '

/-- The arguments of a text that is not plain. -/
def OddTextArgs (task : ExecutableTask) (args : List String) : Prop :=
  ∃ action ∈ task.actions, action.type = "device.action" ∧
    ∃ request, env.decodeRequest action.parameters = some request ∧
      actionArguments task.deviceID request = .ok args ∧ ¬PlainText request

theorem isPlain_coordinate (value : Int) :
    ∀ c ∈ (coordinate value).toList, Shell.isPlain c = true := by
  intro c hc
  cases value with
  | ofNat n => exact Shell.isPlain_repr n c hc
  | negSucc n =>
    have htext : (coordinate (.negSucc n)).toList = '-' :: (n + 1).repr.toList := by
      simp [coordinate, Int.toString_eq_repr, Int.repr]
    rw [htext] at hc
    rcases List.mem_cons.mp hc with rfl | hc
    · decide
    · exact Shell.isPlain_repr (n + 1) c hc

theorem isPlain_keyCode {key keyCode : String} (h : keyCodes.lookup key = some keyCode) :
    ∀ c ∈ keyCode.toList, Shell.isPlain c = true := by
  have all : ∀ entry ∈ keyCodes, Shell.isPlainWord entry.2.toList = true := by decide
  have hmem : (key, keyCode) ∈ keyCodes := by
    obtain ⟨before, after, he, -⟩ := List.lookup_eq_some_iff.mp h
    simp [he]
  exact (Shell.isPlainWord_iff.mp (all _ hmem)).2

/-- A plain text has nothing but plain characters once its spaces are replaced. -/
theorem isPlain_replaced {text : List Char}
    (h : ∀ c ∈ text, Shell.isPlain c = true ∨ c = ' ') :
    ∀ c ∈ replaceAll [' '] ['%', 's'] text, Shell.isPlain c = true := by
  intro c hc
  rw [replaceAll_singleton, List.mem_flatMap] at hc
  obtain ⟨d, hd, hc⟩ := hc
  split_ifs at hc with hspace
  · rw [List.mem_cons, List.mem_singleton] at hc
    rcases hc with rfl | rfl <;> decide
  · rw [List.mem_singleton] at hc
    subst hc
    exact (h c hd).resolve_right hspace

/-- Every device action that is accepted is one word after the other behind `input`. -/
theorem actionArguments_words {deviceID : String} {request : ActionRequest} {args : List String}
    (h : actionArguments deviceID request = .ok args) :
    ∃ word words, args = deviceArgs deviceID ("shell" :: "input" :: word :: words) ∧
      (PlainText request → ∀ w ∈ word :: words, ∀ c ∈ w.toList, Shell.isPlain c = true) := by
  have named {word : String} (hword : Shell.isPlainWord word.toList = true) :
      ∀ c ∈ word.toList, Shell.isPlain c = true := (Shell.isPlainWord_iff.mp hword).2
  by_cases hdevice : isBlank deviceID ∨ '\x00' ∈ deviceID.toList
  · rw [actionArguments, if_pos hdevice] at h
    cases h
  · rw [actionArguments, if_neg hdevice] at h
    dsimp only at h
    split at h
    · split_ifs at h
      cases h
      refine ⟨"tap", [coordinate request.x, coordinate request.y], rfl, ?_⟩
      intro _ w hw
      simp only [List.mem_cons, List.not_mem_nil, or_false] at hw
      rcases hw with rfl | rfl | rfl
      · exact named (by decide)
      · exact isPlain_coordinate _
      · exact isPlain_coordinate _
    · generalize (if request.durationMS ≤ 0 then 300 else request.durationMS) = duration at h
      split_ifs at h
      cases h
      refine ⟨"swipe", [coordinate request.x, coordinate request.y, coordinate request.endX,
        coordinate request.endY, coordinate duration], rfl, ?_⟩
      intro _ w hw
      simp only [List.mem_cons, List.not_mem_nil, or_false] at hw
      rcases hw with rfl | rfl | rfl | rfl | rfl | rfl
      · exact named (by decide)
      all_goals exact isPlain_coordinate _
    · cases hkey : keyCodes.lookup request.key with
      | none =>
        rw [hkey] at h
        cases h
      | some keyCode =>
        rw [hkey] at h
        cases h
        refine ⟨"keyevent", [keyCode], rfl, ?_⟩
        intro _ w hw
        simp only [List.mem_cons, List.not_mem_nil, or_false] at hw
        rcases hw with rfl | rfl
        · exact named (by decide)
        · exact isPlain_keyCode hkey
    · rename_i htype
      split_ifs at h
      cases h
      refine ⟨"text", [String.ofList (replaceAll [' '] ['%', 's'] request.text.toList)], rfl, ?_⟩
      intro hplain w hw
      simp only [List.mem_cons, List.not_mem_nil, or_false] at hw
      rcases hw with rfl | rfl
      · exact named (by decide)
      · rw [String.toList_ofList]
        exact isPlain_replaced (hplain htype)
    · cases h

/-- What adb makes the shell of the device run at most, for a line that the shell reads as plain
commands: adb joins the words after `shell` with spaces, and the shell runs what it reads. -/
def RunsLine (deviceShell : List String → List (List (List Char))) : Prop :=
  ∀ (deviceID word : String) (words : List String) (commands : List (List (List Char))),
    word.toList.head? ≠ some '-' →
    Shell.commands (shellLine (word :: words)) = some commands →
    ∀ command ∈ deviceShell (deviceArgs deviceID ("shell" :: word :: words)), command ∈ commands

variable {deviceShell : List String → List (List (List Char))} {env : ExecutorEnv}
variable {task : ExecutableTask}

/-- The line of a device action runs `input`, and nothing else. -/
theorem runs_input (hshell : RunsLine deviceShell) {deviceID : String} {request : ActionRequest}
    {args : List String} (h : actionArguments deviceID request = .ok args)
    (hplain : PlainText request) :
    ∀ command ∈ deviceShell args, command.head? = some "input".toList := by
  obtain ⟨word, words, rfl, hwords⟩ := actionArguments_words h
  have hline : shellLine ("input" :: word :: words) =
      "input".toList ++ ' ' :: shellLine (word :: words) := by
    simp [shellLine, List.intercalate]
  have hrest : ∀ c ∈ shellLine (word :: words), Shell.isPlain c || Shell.isBlankChar c := by
    intro c hc
    rcases Shell.mem_intercalate hc with rfl | ⟨text, htext, hc⟩
    · decide
    · obtain ⟨w, hw, rfl⟩ := List.mem_map.mp htext
      rw [hwords hplain w hw c hc]
      rfl
  obtain ⟨rest, hcommands⟩ := Shell.commands_plain_line
    (Shell.renders_plain (show Shell.isPlainWord "input".toList = true by decide))
    (by decide) hrest
  rw [← hline] at hcommands
  intro command hc
  have hmem := hshell deviceID "input" (word :: words) _ (by decide) hcommands command hc
  rw [List.mem_singleton.mp hmem]
  rfl

/-- A command of a fallback runs as it is meant. -/
theorem runs_fallback (hshell : RunsLine deviceShell) {deviceID : String} {args : List String}
    (h : FallbackArgs deviceID args) : ∀ command ∈ deviceShell args, FallbackCommand command := by
  obtain ⟨word, words, command, rfl, hname, hcommands, hfallback⟩ := h
  intro command' hc
  have hmem := hshell deviceID word words _ hname hcommands command' hc
  rw [List.mem_singleton.mp hmem]
  exact hfallback

/-- What an action of a task may send. -/
def Permitted (env : ExecutorEnv) (task : ExecutableTask) (action : Action) : Effect → Prop
  | .adb args =>
    (action.type = "device.action" ∧ (FallbackArgs task.deviceID args ∨
      ∃ request, env.decodeRequest action.parameters = some request ∧
        actionArguments task.deviceID request = .ok args)) ∨
    (action.type = "adb.command" ∧ ∃ words, stringSlice (action.parameter "args") = some words ∧
      args = deviceArgs task.deviceID words) ∨
    (action.type = "adb.shell" ∧ ∃ command, args = deviceArgs task.deviceID ["shell", command])
  | .invoke .. => action.type = "companion.call"

theorem sends_executeAutomationAction (action : Action) :
    Sends (Permitted env task action) (executeAutomationAction env task action) := by
  unfold executeAutomationAction
  split
  · exact sends_pure _
  · split
    · exact sends_pure _
    · apply sends_ite
      · intro _
        exact sends_pure _
      · intro _
        exact sends_bind sends_get (fun _ => sends_pure _)
  · rename_i htype
    split
    · exact sends_pure _
    · rename_i request hrequest
      apply (sends_action request).mono
      intro e he
      rcases he with hfallback | ⟨args, hargs, rfl⟩
      · cases e with
        | adb args => exact Or.inl ⟨htype, Or.inl hfallback⟩
        | invoke => exact hfallback.elim
      · exact Or.inl ⟨htype, Or.inr ⟨request, hrequest, hargs⟩⟩
  · rename_i htype
    split
    · exact sends_pure _
    · rename_i words hwords
      apply sends_bind
      · exact sends_exec (Or.inr (Or.inl ⟨htype, words, hwords, rfl⟩))
      · intro answer
        exact sends_pure _
  · rename_i htype
    split
    · exact sends_pure _
    · rename_i command _
      apply sends_ite
      · intro _
        exact sends_pure _
      · intro _
        apply sends_bind
        · exact sends_exec (Or.inr (Or.inr ⟨htype, command, rfl⟩))
        · intro answer
          exact sends_pure _
  · rename_i htype
    apply sends_bind
    · exact sends_send (P := Permitted env task action) htype
    · intro _
      exact sends_bind sends_get (fun _ => sends_pure _)
  · exact sends_pure _

theorem sends_executeActions {actions : List Action} (h : ∀ action ∈ actions, action ∈ task.actions) :
    Sends (fun e => ∃ action ∈ task.actions, Permitted env task action e)
      (executeActions env task actions) := by
  induction actions with
  | nil => exact sends_pure _
  | cons action rest ih =>
    have hmem : action ∈ task.actions := h action List.mem_cons_self
    apply sends_bind
    · apply (sends_executeAutomationAction action).mono
      intro e he
      exact ⟨action, hmem, he⟩
    · intro answer
      cases answer with
      | error e => exact sends_pure _
      | ok u => exact ih (fun other hother => h other (List.mem_cons_of_mem action hother))

/-- An accepted task has the permissions that the types of its actions require. -/
theorem validate_permissions {task : Task} (h : validate task = .ok ()) {type : String}
    (htype : type ∈ task.actions) :
    (startsWith type "adb." = true → task.permissions.allowADB = true) ∧
    (type = "adb.shell" → task.permissions.allowShell = true) ∧
    (type = "companion.call" → task.permissions.allowCompanion = true) := by
  have hactions : task.actions.forM (validateAction task.permissions) = .ok () := by
    unfold validate at h
    by_cases hname : isBlank task.name = true
    · rw [if_pos hname] at h
      cases h
    · rw [if_neg hname] at h
      by_cases hempty : (task.triggers.isEmpty || task.actions.isEmpty) = true
      · rw [if_pos hempty] at h
        cases h
      · rw [if_neg hempty] at h
        obtain ⟨u, -, hactions⟩ := bind_eq_ok.mp h
        exact hactions
  have haction := forM_eq_ok.mp hactions type htype
  unfold validateAction at haction
  refine ⟨?_, ?_, ?_⟩
  · intro hadb
    by_contra hdenied
    rw [Bool.not_eq_true] at hdenied
    simp only [hadb, hdenied, Bool.not_false, Bool.and_self, if_true] at haction
    split_ifs at haction
  · rintro rfl
    by_contra hdenied
    rw [Bool.not_eq_true] at hdenied
    simp only [hdenied, Bool.not_false, decide_true, Bool.and_self, if_true] at haction
    split_ifs at haction
  · rintro rfl
    by_contra hdenied
    rw [Bool.not_eq_true] at hdenied
    simp only [hdenied, Bool.not_false, decide_true, Bool.and_self, if_true] at haction
    split_ifs at haction

/-- What the execution of a task sends is permitted for one of its actions. -/
theorem executed_permitted {e : Effect} (he : e ∈ executed env task) :
    ∃ action ∈ task.actions, Permitted env task action e :=
  (sends_executeActions (fun _ h => h)).mem he

theorem permissions_of_action {action : Action} (hvalid : validate task.stored = .ok ())
    (hmem : action ∈ task.actions) :
    (startsWith action.type "adb." = true → task.stored.permissions.allowADB = true) ∧
    (action.type = "adb.shell" → task.stored.permissions.allowShell = true) ∧
    (action.type = "companion.call" → task.stored.permissions.allowCompanion = true) := by
  apply validate_permissions hvalid
  rw [task.types]
  exact List.mem_map_of_mem hmem

/-- Where adb is not granted, only device actions send commands of adb. -/
theorem executed_adb {args : List String} (he : .adb args ∈ executed env task) :
    InputArgs env task args ∨ FallbackArgs task.deviceID args ∨ CommandArgs task args ∨
      ShellArgs task args := by
  obtain ⟨action, hmem, hpermitted⟩ := executed_permitted he
  rcases hpermitted with ⟨htype, hfallback | hinput⟩ | ⟨htype, hwords⟩ | ⟨htype, hcommand⟩
  · exact Or.inr (Or.inl hfallback)
  · exact Or.inl ⟨action, hmem, htype, hinput⟩
  · exact Or.inr (Or.inr (Or.inl ⟨action, hmem, htype, hwords⟩))
  · exact Or.inr (Or.inr (Or.inr ⟨action, hmem, htype, hcommand⟩))

/-- A shell that runs what it reads, and nothing of any other line. -/
def readingShell : List String → List (List (List Char))
  | "-s" :: _ :: "shell" :: words => (Shell.commands (shellLine words)).getD []
  | _ => []

theorem readingShell_runs : RunsLine readingShell := by
  intro deviceID word words commands _ hcommands command hc
  simpa [readingShell, deviceArgs, hcommands] using hc

/-- A task without any permission, that presses the home key. -/
def homeTask : ExecutableTask where
  stored := ⟨1, "t", "t", "skip", ⟨false, false, false, false⟩, ["manual"], ["device.action"], 0, 0⟩
  deviceID := "usb-7"
  actions := [⟨"device.action", .object [("type", .string "key"), ("key", .string "HOME")]⟩]
  types := rfl

/-- A handset that denies the injection of input events to the shell. -/
def denyingHandset : ExecutorEnv where
  exec := fun sent =>
    if sent.length = 1 then
      .ok ⟨255, "", "Injecting input events requires the caller to have the INJECT_EVENTS permission."⟩
    else .ok ⟨0, "", ""⟩
  invoke := fun _ => .ok ()
  cancelled := fun _ => false
  inputTransport := fun _ => none
  buffer := fun _ => none
  stamp := fun _ => []
  requirement := none
  packageInfo := fun _ => none
  toLower := Char.toLower
  parse := fun _ => none
  decodeRequest := fun parameters => do
    let type ← (← parameters.get? "type").asStr
    let key ← (← parameters.get? "key").asStr
    some { type, key }
  truncate := fun _ => 0

/-- The home key is pressed, in vain, and then its intent is started. -/
theorem executed_home : (executed denyingHandset homeTask).filterMap Effect.args? =
    [deviceArgs "usb-7" ["shell", "input", "keyevent", "KEYCODE_HOME"],
      deviceArgs "usb-7" ("shell" :: homeIntent)] := by
  decide +kernel

theorem home_sends_intent :
    .adb (deviceArgs "usb-7" ("shell" :: homeIntent)) ∈ executed denyingHandset homeTask := by
  have hmem : deviceArgs "usb-7" ("shell" :: homeIntent) ∈
      (executed denyingHandset homeTask).filterMap Effect.args? := by
    rw [executed_home]
    simp
  obtain ⟨e, he, hargs⟩ := List.mem_filterMap.mp hmem
  cases e with
  | adb args =>
    cases hargs
    exact he
  | invoke => cases hargs

end AdbControl.Automation
