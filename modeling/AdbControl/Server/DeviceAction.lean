import AdbControl.Automation.Service
import AdbControl.Server.CompanionCommand
import AdbControl.Framework.Shell
import AdbControl.Framework.Trace

namespace AdbControl.Server.DeviceAction

open Framework

structure ActionRequest where
  type : String
  x : Int := 0
  y : Int := 0
  endX : Int := 0
  endY : Int := 0
  durationMS : Int := 0
  coordinateWidth : Int := 0
  coordinateHeight : Int := 0
  key : String := ""
  text : String := ""

inductive InvalidAction
  | deviceID
  | tapCoordinates
  | swipeCoordinates
  | swipeDuration
  | unsupportedKey (key : String)
  | text
  | unsupportedAction (type : String)
  deriving DecidableEq, Repr

/-- `strconv.Itoa`. -/
def coordinate (value : Int) : String := toString value

def keyCodes : List (String × String) :=
  [("HOME", "KEYCODE_HOME"), ("BACK", "KEYCODE_BACK"), ("APP_SWITCH", "KEYCODE_APP_SWITCH"),
    ("POWER", "KEYCODE_POWER"), ("VOLUME_UP", "KEYCODE_VOLUME_UP"),
    ("VOLUME_DOWN", "KEYCODE_VOLUME_DOWN"), ("ENTER", "KEYCODE_ENTER"), ("DEL", "KEYCODE_DEL")]

/-- `ActionArguments`; a Lean string is valid UTF-8. -/
def actionArguments (deviceID : String) (action : ActionRequest) :
    Except InvalidAction (List String) :=
  if isBlank deviceID ∨ '\x00' ∈ deviceID.toList then .error .deviceID
  else
    let base := ["-s", deviceID, "shell", "input"]
    match action.type with
    | "tap" =>
      if action.x < 0 ∨ action.y < 0 then .error .tapCoordinates
      else .ok (base ++ ["tap", coordinate action.x, coordinate action.y])
    | "swipe" =>
      if action.x < 0 ∨ action.y < 0 ∨ action.endX < 0 ∨ action.endY < 0 then
        .error .swipeCoordinates
      else
        let duration := if action.durationMS ≤ 0 then 300 else action.durationMS
        if 10000 < duration then .error .swipeDuration
        else .ok (base ++ ["swipe", coordinate action.x, coordinate action.y,
          coordinate action.endX, coordinate action.endY, coordinate duration])
    | "key" =>
      match keyCodes.lookup action.key with
      | none => .error (.unsupportedKey action.key)
      | some keyCode => .ok (base ++ ["keyevent", keyCode])
    | "text" =>
      if '\x00' ∈ action.text.toList then .error .text
      else .ok (base ++ ["text", String.ofList (replaceAll [' '] ['%', 's'] action.text.toList)])
    | _ => .error (.unsupportedAction action.type)

structure CommandOutput where
  exitCode : Int
  stdout : String
  stderr : String

/-- An error of the unified contract with its cause, the end of the request's own context, or an
answer that cannot be read as JSON. -/
inductive Failure
  | app (e : AppError) (cause : String)
  | cancelled
  | undecodable

/-- What is sent to Core: a command of adb, or a call of the companion. -/
inductive Effect
  | adb (args : List String)
  | invoke (deviceID : String) (capabilityID operation args : Value)

def Effect.args? : Effect → Option (List String)
  | adb args => some args
  | invoke .. => none

inductive ScreenControl
  | scrcpy
  | companion
  deriving DecidableEq, Repr

/-- What the service meets: the answer to the last of the requests sent, and what else decides how
it goes on, which may depend on all that was sent. The map of the transports is shared with others:
what it holds for the device is read here whenever it is looked up. -/
structure DeviceEnv where
  exec : List Effect → Except Failure CommandOutput
  invoke : List Effect → Except Failure Unit
  cancelled : List Effect → Bool
  inputTransport : List Effect → Option ScreenControl
  buffer : List Effect → Option (Vector UInt8 16)
  /-- the digits of the time, for an id without random bytes -/
  stamp : List Effect → List (Fin 10)
  /-- the version code of the companion that is required, if one is configured -/
  requirement : Option Int
  /-- `parseCompanionPackageInfo`: the version code, if the package is installed -/
  packageInfo : String → Option Int
  toLower : Char → Char
  parse : String → Option Value

abbrev Answer (α : Type) := Except Failure α

def deviceArgs (deviceID : String) (args : List String) : List String := "-s" :: deviceID :: args

def adbArgsContainNul : AppError :=
  ⟨"ADB_ARGS_CONTAIN_NUL", "ADB 参数包含非法字符", "device.service", false, none⟩

/-- `strings.Contains`. -/
def contains (s sub : List Char) : Bool := decide (sub <:+: s)

variable (env : DeviceEnv)

def adbCommandFailure (args : List String) (output : CommandOutput) : AppError :=
  let detail := trim (output.stderr.toList ++ '\n' :: output.stdout.toList)
  let command := args.head?.getD ""
  let unknown := contains (detail.map env.toLower) "unknown command".toList
  if unknown ∧ command = "pair" then
    ⟨"ADB_PAIR_UNSUPPORTED", "当前 ADB 版本不支持六位码配对", "device.connection", false,
      some "请升级服务端 Android Platform-Tools 后重试"⟩
  else if unknown ∧ command = "mdns" then
    ⟨"ADB_MDNS_UNSUPPORTED", "当前 ADB 版本不支持无线设备发现", "device.connection", false,
      some "请升级服务端 Android Platform-Tools；升级前仍可手工输入设备地址"⟩
  else ⟨"ADB_COMMAND_FAILED", "设备命令执行失败", "device.service", true, some (String.ofList detail)⟩

/-- `Service.Exec`. -/
def exec (args : List String) : Sending Effect (Answer CommandOutput) :=
  if args.any (fun arg => '\x00' ∈ arg.toList) then pure (.error (.app adbArgsContainNul ""))
  else do
    send (.adb args)
    match env.exec (← get) with
    | .error e => pure (.error e)
    | .ok output =>
      pure (if output.exitCode ≠ 0 then .error (.app (adbCommandFailure env args output) "")
        else .ok output)

def isInputInjectionDenied : Failure → Bool
  | .app e cause =>
    if e.errorCode ≠ "ADB_COMMAND_FAILED" then false
    else
      let detail := ((e.suggestion.getD "").toList ++ '\n' :: cause.toList).map env.toLower
      contains detail "injecting input events".toList && contains detail "inject_events".toList
  | .cancelled | .undecodable => false

def companionPackageName : String := "com.adbcontrol.companion"

def companionCommandAction : String := "com.adbcontrol.companion.EXECUTE_COMMAND"

def companionCommandResultPath : String :=
  "/sdcard/Android/data/com.adbcontrol.companion/files/command-results"

def packageListContains (output packageName : String) : Bool :=
  ((output.toList.filter (fun c => c != '\r')).splitOn '\n').any
    (fun line => trim line == "package:".toList ++ packageName.toList)

/-- `ProbeCompanionPackage`: the version code, if the package is installed. -/
def probeCompanionPackage (deviceID : String) : Sending Effect (Answer (Option Int)) := do
  match ← exec env
    (deviceArgs deviceID ["shell", "pm", "list", "packages", companionPackageName]) with
  | .error e => pure (.error e)
  | .ok listed =>
    if !packageListContains listed.stdout companionPackageName then pure (.ok none)
    else
      match ← exec env
        (deviceArgs deviceID ["shell", "dumpsys", "package", companionPackageName]) with
      | .error e => pure (.error e)
      | .ok output => pure (.ok (env.packageInfo output.stdout))

def companionInstallRequired : AppError :=
  ⟨"COMPANION_INSTALL_REQUIRED", "当前功能需要安装 ADBControl Companion", "companion.requirement", true,
    some "确认后可使用服务端内置 APK 进行安装"⟩

def companionUpgradeRequired (required installed : Int) : AppError :=
  ⟨"COMPANION_UPGRADE_REQUIRED", "当前伴侣版本不支持此功能", "companion.requirement", true,
    some ("需要 versionCode " ++ toString required ++ "，设备当前为 " ++ toString installed ++
      "；确认后可安全覆盖安装")⟩

/-- `EnsureConfiguredCompanion`, with the check in it. -/
def ensureConfiguredCompanion (deviceID : String) : Sending Effect (Answer Unit) :=
  match env.requirement with
  | none => pure (.ok ())
  | some required => do
    match ← probeCompanionPackage env deviceID with
    | .error e => pure (.error e)
    | .ok none => pure (.error (.app companionInstallRequired ""))
    | .ok (some installed) =>
      pure (if installed < required then
        .error (.app (companionUpgradeRequired required installed) "") else .ok ())

def shellQuote (value : List Char) : List Char :=
  '\'' :: replaceAll ['\''] ['\'', '\\', '\'', '\''] value ++ ['\'']

/-- `randomRequestID`. -/
def randomRequestID (buffer : Option (Vector UInt8 16)) (stamp : List (Fin 10)) : List Char :=
  match buffer with
  | some bytes => Automation.hex bytes.toList
  | none => "web".toList ++ stamp.map (fun digit => digit.val.digitChar)

/-- `json.Marshal` of a map whose values are numbers, by its keys in their order. -/
def marshal (args : List (String × Int)) : List Char :=
  '{' :: [','].intercalate (args.map (fun arg =>
    '"' :: arg.1.toList ++ ['"', ':'] ++ (toString arg.2).toList)) ++ ['}']

/-- The texts of the command that hands an operation to the companion. -/
def broadcastTexts (requestID capabilityID operation args : List Char) : List (List Char) :=
  ["am".toList, "broadcast".toList, "--receiver-foreground".toList,
    "-a".toList, shellQuote companionCommandAction.toList,
    "-n".toList, shellQuote (companionPackageName.toList ++
      "/.commands.CompanionCommandReceiver".toList),
    "--es".toList, "requestId".toList, shellQuote requestID,
    "--es".toList, "capabilityId".toList, shellQuote capabilityID,
    "--es".toList, "operation".toList, shellQuote operation,
    "--es".toList, "argsJson".toList, shellQuote args]

def resultPath (requestID : List Char) : List Char :=
  companionCommandResultPath.toList ++ '/' :: requestID ++ ".json".toList

/-- The looks at the result file that are left, with the error of the last. -/
def readResult (deviceID : String) (requestID : List Char) (lastErr : Option Failure) :
    Nat → Sending Effect (Answer String)
  | 0 => pure (.error (lastErr.getD (.app companionResultMissing "")))
  | left + 1 => do
    let answer ← exec env
      (deviceArgs deviceID ["shell", "cat", String.ofList (resultPath requestID)])
    match answer with
    | .ok output =>
      if trim output.stdout.toList ≠ [] then
        pure (.ok (String.ofList (trim output.stdout.toList)))
      else if env.cancelled (← get) then pure (.error .cancelled)
      else readResult deviceID requestID none left
    | .error e =>
      if env.cancelled (← get) then pure (.error .cancelled)
      else readResult deviceID requestID (some e) left

def readCompanionCommandResult (deviceID : String) (requestID : List Char) :
    Sending Effect (Answer String) :=
  readResult env deviceID requestID none 30

/-- `ExecuteCompanionCommand`. -/
def executeCompanionCommand (deviceID capabilityID operation : String) (args : List (String × Int)) :
    Sending Effect (Answer String) := do
  match ← ensureConfiguredCompanion env deviceID with
  | .error e => pure (.error e)
  | .ok () =>
    if isBlank capabilityID ∨ isBlank operation then
      pure (.error (.app companionCommandInvalid ""))
    else
      let sent ← get
      let requestID := randomRequestID (env.buffer sent) (env.stamp sent)
      let command := [' '].intercalate
        (broadcastTexts requestID capabilityID.toList operation.toList (marshal args))
      match ← exec env (deviceArgs deviceID ["shell", String.ofList command]) with
      | .error e => pure (.error e)
      | .ok _ =>
        match ← readCompanionCommandResult env deviceID requestID with
        | .error e => pure (.error e)
        | .ok payload =>
          match validateCompanionCommandResult env.parse payload with
          | .error e => pure (.error (.app e ""))
          | .ok () => pure (.ok payload)

def accessibilityFallback (request : ActionRequest) : Option (String × List (String × Int)) :=
  match request.type with
  | "key" =>
    match request.key with
    | "BACK" => some ("accessibility.global.back", [])
    | "APP_SWITCH" => some ("accessibility.global.recents", [])
    | _ => none
  | "tap" =>
    some ("accessibility.touch.tap", [("coordinateHeight", request.coordinateHeight),
      ("coordinateWidth", request.coordinateWidth), ("x", request.x), ("y", request.y)])
  | "swipe" =>
    some ("accessibility.touch.swipe", [("coordinateHeight", request.coordinateHeight),
      ("coordinateWidth", request.coordinateWidth), ("durationMs", request.durationMS),
      ("endX", request.endX), ("endY", request.endY), ("startX", request.x),
      ("startY", request.y)])
  | _ => none

/-- `ok` and `result.enabled` of `companionAccessibilityStatus`. -/
def companionAccessibilityStatus (v : Value) : Option (Bool × Bool) :=
  match v with
  | .null => some (false, false)
  | .object members => do
    let ok ← ((Value.object members).memberOr "ok" (.bool false)).asBool
    match (Value.object members).memberOr "result" .null with
    | .null => some (ok, false)
    | .object result => do
      let enabled ← ((Value.object result).memberOr "enabled" (.bool false)).asBool
      some (ok, enabled)
    | _ => none
  | _ => none

def inputPermissionError : AppError :=
  ⟨"ADB_INPUT_PERMISSION_DENIED", "设备系统禁止 ADB 注入此控制操作", "device.control", true,
    some "请启用设备的“USB 调试（安全设置）”，或安装并启用 ADBControl 伴侣无障碍服务"⟩

def companionStatusInvalid : AppError :=
  ⟨"COMPANION_RESULT_INVALID", "伴侣无障碍状态无法解析", "device.control", true, none⟩

def companionAccessibilityNotEnabled : AppError :=
  ⟨"COMPANION_ACCESSIBILITY_NOT_ENABLED", "设备禁止 ADB 控制，且伴侣无障碍尚未启用", "device.control",
    true, some "请在设备的无障碍设置中启用 ADBControl 伴侣；部分三星/小米设备也可启用“USB 调试（安全设置）”"⟩

def homeIntent : List String :=
  ["am", "start", "-a", "android.intent.action.MAIN", "-c", "android.intent.category.HOME"]

def accessibilityControl : String := "android.accessibility.control"

/-- `fallbackDeniedInput`; the transport it names is left out, as `Action` does. -/
def fallbackDeniedInput (deviceID : String) (request : ActionRequest) : Sending Effect (Answer Unit) :=
  if request.type = "key" ∧ request.key = "HOME" then do
    let answer ← exec env (deviceArgs deviceID ("shell" :: homeIntent))
    pure (answer.map (fun _ => ()))
  else
    match accessibilityFallback request with
    | none => pure (.error (.app inputPermissionError ""))
    | some (operation, args) => do
      match ← executeCompanionCommand env deviceID accessibilityControl "accessibility.status" [] with
      | .error e => pure (.error e)
      | .ok statusPayload =>
        match (env.parse statusPayload).bind companionAccessibilityStatus with
        | none => pure (.error (.app companionStatusInvalid ""))
        | some (ok, enabled) =>
          if !ok ∨ !enabled then pure (.error (.app companionAccessibilityNotEnabled ""))
          else do
            let answer ← executeCompanionCommand env deviceID accessibilityControl operation args
            pure (answer.map (fun _ => ()))

def deviceActionInvalid : AppError :=
  ⟨"DEVICE_ACTION_INVALID", "设备操作参数无效", "device.control", false, none⟩

/-- `Service.Action`. -/
def action (deviceID : String) (request : ActionRequest) : Sending Effect (Answer Unit) :=
  match actionArguments deviceID request with
  | .error _ => pure (.error (.app deviceActionInvalid ""))
  | .ok args => do
    if env.inputTransport (← get) = some .companion then fallbackDeniedInput env deviceID request
    else
      match ← exec env args with
      | .ok _ => pure (.ok ())
      | .error e =>
        if !isInputInjectionDenied env e then pure (.error e)
        else fallbackDeniedInput env deviceID request

/-- The line that adb hands to the shell of the device. -/
def shellLine (words : List String) : List Char := [' '].intercalate (words.map String.toList)

/-- The operations that a fallback may ask of the companion. -/
def fallbackOperations : List String :=
  ["accessibility.status", "accessibility.global.back", "accessibility.global.recents",
    "accessibility.touch.tap", "accessibility.touch.swipe"]

/-- The words of the command that hands an operation to the companion. -/
def broadcastWords (requestID capabilityID operation args : List Char) : List (List Char) :=
  ["am".toList, "broadcast".toList, "--receiver-foreground".toList,
    "-a".toList, companionCommandAction.toList,
    "-n".toList, companionPackageName.toList ++ "/.commands.CompanionCommandReceiver".toList,
    "--es".toList, "requestId".toList, requestID,
    "--es".toList, "capabilityId".toList, capabilityID,
    "--es".toList, "operation".toList, operation,
    "--es".toList, "argsJson".toList, args]

/-- The commands of a fallback: the intent of the home key, and what an operation of the companion
takes, which is looked for, asked and read. -/
inductive FallbackCommand : List (List Char) → Prop
  | home : FallbackCommand (homeIntent.map String.toList)
  | list : FallbackCommand (["pm", "list", "packages", companionPackageName].map String.toList)
  | dump : FallbackCommand (["dumpsys", "package", companionPackageName].map String.toList)
  | broadcast (requestID args : List Char) {operation : String}
    (h : operation ∈ fallbackOperations) : FallbackCommand
      (broadcastWords requestID accessibilityControl.toList operation.toList args)
  | read (requestID : List Char) : FallbackCommand ["cat".toList, resultPath requestID]

/-- The arguments with which adb has the device run one command of a fallback. -/
def FallbackArgs (deviceID : String) (args : List String) : Prop :=
  ∃ (word : String) (words : List String) (command : List (List Char)),
    args = deviceArgs deviceID ("shell" :: word :: words) ∧ word.toList.head? ≠ some '-' ∧
    Shell.commands (shellLine (word :: words)) = some [command] ∧ FallbackCommand command

/-- A request of a fallback. -/
def Fallback (deviceID : String) : Effect → Prop
  | .adb args => FallbackArgs deviceID args
  | .invoke .. => False

variable {env : DeviceEnv} {deviceID : String} {P : Effect → Prop}

theorem sends_exec {args : List String} (h : P (.adb args)) : Sends P (exec env args) := by
  unfold exec
  apply sends_ite
  · intro _
    exact sends_pure _
  · intro _
    apply sends_bind (sends_send h)
    intro _
    apply sends_bind sends_get
    intro sent
    cases env.exec sent with
    | error e => exact sends_pure _
    | ok output => exact sends_pure _

/-- Words that the shell takes as they are. -/
theorem renders_words {words : List String}
    (h : ∀ word ∈ words, Shell.isPlainWord word.toList = true) :
    List.Forall₂ Shell.Renders (words.map String.toList) (words.map String.toList) := by
  rw [List.forall₂_same]
  intro text htext
  obtain ⟨word, hword, rfl⟩ := List.mem_map.mp htext
  exact Shell.renders_plain (h word hword)

/-- A command of plain words. -/
theorem fallbackArgs_words {word : String} {words : List String}
    (h : ∀ w ∈ word :: words, Shell.isPlainWord w.toList = true)
    (hname : word.toList.head? ≠ some '-' ∧ word.toList ∉ Shell.reserved)
    (hc : FallbackCommand ((word :: words).map String.toList)) :
    FallbackArgs deviceID (deviceArgs deviceID ("shell" :: word :: words)) := by
  refine ⟨word, words, _, rfl, hname.1, ?_, hc⟩
  apply Shell.commands_intercalate (renders_words h)
  simpa [Shell.isCommand] using hname.2

theorem shellQuote_eq (value : List Char) : shellQuote value = Shell.quoted value := by
  rw [shellQuote, replaceAll_singleton]
  rfl

theorem renders_shellQuote (value : List Char) : Shell.Renders (shellQuote value) value := by
  rw [shellQuote_eq]
  exact Shell.renders_quoted value

/-- The command for the companion is read as the words that are meant, whatever is in them. -/
theorem commands_broadcast (requestID capabilityID operation args : List Char) :
    Shell.commands ([' '].intercalate (broadcastTexts requestID capabilityID operation args)) =
      some [broadcastWords requestID capabilityID operation args] := by
  apply Shell.commands_intercalate
  · unfold broadcastTexts broadcastWords
    repeat' apply List.Forall₂.cons
    on_goal -1 => exact List.Forall₂.nil
    all_goals first
      | with_reducible exact renders_shellQuote _
      | exact Shell.renders_plain (by decide)
  · show (!decide ("am".toList ∈ Shell.reserved)) = true
    decide

theorem isPlain_randomRequestID (buffer : Option (Vector UInt8 16)) (stamp : List (Fin 10)) :
    ∀ c ∈ randomRequestID buffer stamp, Shell.isPlain c = true := by
  have web : ∀ c ∈ "web".toList, Shell.isPlain c = true :=
    (Shell.isPlainWord_iff.mp (by decide)).2
  intro c hc
  cases buffer with
  | none =>
    rcases List.mem_append.mp hc with hc | hc
    · exact web c hc
    · obtain ⟨digit, -, rfl⟩ := List.mem_map.mp hc
      exact Shell.isPlain_digitChar (by omega)
  | some bytes =>
    obtain ⟨b, -, hb⟩ := List.mem_flatMap.mp hc
    have hsize := b.toNat_lt
    rw [List.mem_cons, List.mem_singleton] at hb
    rcases hb with rfl | rfl
    · exact Shell.isPlain_digitChar (by omega)
    · exact Shell.isPlain_digitChar (by omega)

theorem isPlain_resultPath {requestID : List Char} (h : ∀ c ∈ requestID, Shell.isPlain c = true) :
    ∀ c ∈ resultPath requestID, Shell.isPlain c = true := by
  have directory : ∀ c ∈ companionCommandResultPath.toList, Shell.isPlain c = true :=
    (Shell.isPlainWord_iff.mp (by decide)).2
  have extension : ∀ c ∈ ".json".toList, Shell.isPlain c = true :=
    (Shell.isPlainWord_iff.mp (by decide)).2
  intro c hc
  rcases List.mem_append.mp hc with hc | hend
  · rcases List.mem_append.mp hc with hpath | hid
    · exact directory c hpath
    · rcases List.mem_cons.mp hid with rfl | hid
      · decide
      · exact h c hid
  · exact extension c hend

theorem sends_probeCompanionPackage :
    Sends (Fallback deviceID) (probeCompanionPackage env deviceID) := by
  apply sends_bind
  · exact sends_exec (fallbackArgs_words (by decide) (by decide) .list)
  · intro listed
    cases listed with
    | error e => exact sends_pure _
    | ok listed =>
      apply sends_ite
      · intro _
        exact sends_pure _
      · intro _
        apply sends_bind
        · exact sends_exec (fallbackArgs_words (by decide) (by decide) .dump)
        · intro output
          cases output with
          | error e => exact sends_pure _
          | ok output => exact sends_pure _

theorem sends_ensureConfiguredCompanion :
    Sends (Fallback deviceID) (ensureConfiguredCompanion env deviceID) := by
  unfold ensureConfiguredCompanion
  cases env.requirement with
  | none => exact sends_pure _
  | some required =>
    apply sends_bind sends_probeCompanionPackage
    intro installed
    match installed with
    | .error e => exact sends_pure _
    | .ok none => exact sends_pure _
    | .ok (some installed) => exact sends_pure _

/-- Only the result file is read. -/
theorem sends_looks {requestID : List Char}
    (h : P (.adb (deviceArgs deviceID ["shell", "cat", String.ofList (resultPath requestID)])))
    (lastErr : Option Failure) (left : Nat) :
    Sends P (readResult env deviceID requestID lastErr left) := by
  induction left generalizing lastErr with
  | zero => exact sends_pure _
  | succ left ih =>
    apply sends_bind (sends_exec h)
    intro answer
    cases answer with
    | ok output =>
      apply sends_ite
      · intro _
        exact sends_pure _
      · intro _
        apply sends_bind sends_get
        intro sent
        exact sends_ite (fun _ => sends_pure _) (fun _ => ih none)
    | error e =>
      apply sends_bind sends_get
      intro sent
      exact sends_ite (fun _ => sends_pure _) (fun _ => ih (some e))

theorem sends_readResult {requestID : List Char} (h : ∀ c ∈ requestID, Shell.isPlain c = true)
    (lastErr : Option Failure) (left : Nat) :
    Sends (Fallback deviceID) (readResult env deviceID requestID lastErr left) := by
  have look : FallbackArgs deviceID
      (deviceArgs deviceID ["shell", "cat", String.ofList (resultPath requestID)]) := by
    apply fallbackArgs_words
    · intro w hw
      simp only [List.mem_cons, List.not_mem_nil, or_false] at hw
      rcases hw with rfl | rfl
      · decide
      · rw [String.toList_ofList]
        exact Shell.isPlainWord_iff.mpr ⟨by simp [resultPath], isPlain_resultPath h⟩
    · decide
    · simpa using FallbackCommand.read requestID
  exact sends_looks look lastErr left

theorem sends_executeCompanionCommand {operation : String} (h : operation ∈ fallbackOperations)
    (args : List (String × Int)) : Sends (Fallback deviceID)
      (executeCompanionCommand env deviceID accessibilityControl operation args) := by
  apply sends_bind sends_ensureConfiguredCompanion
  intro ensured
  cases ensured with
  | error e => exact sends_pure _
  | ok u =>
    apply sends_ite
    · intro _
      exact sends_pure _
    · intro _
      apply sends_bind sends_get
      intro sent
      apply sends_bind
      · apply sends_exec
        refine ⟨_, [], _, rfl, ?_, ?_, .broadcast
          (randomRequestID (env.buffer sent) (env.stamp sent)) (marshal args) h⟩
        · rw [String.toList_ofList]
          exact nofun
        · show Shell.commands ([' '].intercalate [String.toList (String.ofList _)]) = _
          rw [String.toList_ofList]
          rw [show ∀ text : List Char, [' '].intercalate [text] = text by
            intro text; simp [List.intercalate]]
          exact commands_broadcast _ _ _ _
      · intro asked
        cases asked with
        | error e => exact sends_pure _
        | ok output =>
          apply sends_bind (sends_readResult (isPlain_randomRequestID _ _) none 30)
          intro payload
          cases payload with
          | error e => exact sends_pure _
          | ok payload =>
            dsimp only
            split
            · exact sends_pure _
            · exact sends_pure _

theorem accessibilityFallback_operation {request : ActionRequest} {operation : String}
    {args : List (String × Int)} (h : accessibilityFallback request = some (operation, args)) :
    operation ∈ fallbackOperations := by
  unfold accessibilityFallback at h
  split at h
  · split at h
    · cases h
      decide
    · cases h
      decide
    · cases h
  · cases h
    decide
  · cases h
    decide
  · cases h

/-- A fallback sends the commands of a fallback alone. -/
theorem sends_fallbackDeniedInput (request : ActionRequest) :
    Sends (Fallback deviceID) (fallbackDeniedInput env deviceID request) := by
  unfold fallbackDeniedInput
  apply sends_ite
  · intro _
    apply sends_bind
    · exact sends_exec (fallbackArgs_words (by decide) (by decide) .home)
    · intro answer
      exact sends_pure _
  · intro _
    cases hfallback : accessibilityFallback request with
    | none => exact sends_pure _
    | some command =>
      obtain ⟨operation, args⟩ := command
      apply sends_bind (sends_executeCompanionCommand (by decide) [])
      intro status
      cases status with
      | error e => exact sends_pure _
      | ok payload =>
        dsimp only
        split
        · exact sends_pure _
        · apply sends_ite
          · intro _
            exact sends_pure _
          · intro _
            apply sends_bind
            · exact sends_executeCompanionCommand (accessibilityFallback_operation hfallback) args
            · intro answer
              exact sends_pure _

/-- An action sends its own event of `input`, and the commands of a fallback. -/
theorem sends_action (request : ActionRequest) : Sends (fun e => Fallback deviceID e ∨
    ∃ args, actionArguments deviceID request = .ok args ∧ e = .adb args)
    (action env deviceID request) := by
  have fallback : Sends (fun e => Fallback deviceID e ∨
      ∃ args, actionArguments deviceID request = .ok args ∧ e = .adb args)
      (fallbackDeniedInput env deviceID request) :=
    (sends_fallbackDeniedInput request).mono (fun _ => Or.inl)
  unfold action
  cases hargs : actionArguments deviceID request with
  | error e => exact sends_pure _
  | ok args =>
    rw [hargs] at fallback
    apply sends_bind sends_get
    intro sent
    apply sends_ite
    · intro _
      exact fallback
    · intro _
      apply sends_bind
      · exact sends_exec (Or.inr ⟨args, rfl, rfl⟩)
      · intro answer
        cases answer with
        | ok output => exact sends_pure _
        | error e => exact sends_ite (fun _ => sends_pure _) (fun _ => fallback)

end AdbControl.Server.DeviceAction
