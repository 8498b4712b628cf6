import AdbControl.Automation.Executor
import AdbControl.Server.Packages

namespace AdbControl.Server.DeviceService

open Framework
open AdbControl.Server.DeviceAction (Answer CommandOutput DeviceEnv Failure deviceArgs
  accessibilityControl broadcastTexts companionPackageName randomRequestID shellQuote)

/-- What the service passes on: a command of adb, a call of Core with its parameters, and what is
asked of the hardware monitor. -/
inductive Effect
  | device (e : DeviceAction.Effect)
  | call (method : String) (params : List (String × Value))
  | startMonitor (deviceID : String) (metrics : List String)
  | stopMonitor (deviceID : String)
  | monitorStatus (deviceID : String)

/-- The screenshots of a device: whether one is being taken, where a fresh one comes from, and
whether the companion is to be tried. -/
structure ScreenshotState where
  busy : Bool
  fresh : Option String
  companionDue : Bool

/-- What the service meets, which may depend on all that was passed on before. -/
structure ServiceEnv where
  device : List Effect → DeviceEnv
  /-- Core's answer to the last call -/
  call : List Effect → Except Failure Value
  catalog : List Effect → Catalog × SaveOutcome
  screenshots : List Effect → String → ScreenshotState
  /-- a configuration was sent to the device within the cooldown -/
  provisionedRecently : List Effect → String → Bool
  /-- how often the wait for the session looks for it -/
  ticks : List Effect → Nat
  scrcpyRandom : List Effect → Option (Vector UInt8 4)
  /-- the sockets and the handshakes of a session, or what fails of them -/
  connectScrcpy : List Effect → Nat → Except Failure Unit
  companionPublicHost : String
  /-- `net.SplitHostPort` -/
  splitHostPort : String → Option (String × String)
  /-- `net.ParseIP`, and whether the address is unspecified -/
  parseIP : String → Option Bool
  routeLocalAddress : String → Option String
  toLower : Char → Char
  marshal : Value → List Char
  decodeBase64 : List Char → Option (List UInt8)
  /-- `ParseCompanionPackageMetadata` takes the payload -/
  readsMetadata : String → Bool

variable (env : ServiceEnv)

/-- `Service.Exec`. -/
def exec (args : List String) : Sending Effect (Answer CommandOutput) :=
  within .device fun sent => DeviceAction.exec (env.device sent) args

/-- `core.Call`. -/
def call (method : String) (params : List (String × Value)) : Sending Effect (Answer Value) := do
  send (.call method params)
  let sent ← get
  pure (env.call sent)

/-- A list of objects, as `encoding/json` reads it. -/
def readObjects : Value → Option (List Value)
  | .null => some []
  | .array items => if items.all (fun item => item.isObject || item matches .null) then some items else none
  | _ => none

def isSessionUnavailable : Failure → Bool
  | .app e _ => isCompanionSessionUnavailable e
  | .cancelled | .undecodable => false

/-- A call that is answered with a list of objects. -/
def callObjects (method deviceID : String) : Sending Effect (Answer (List Value)) := do
  match ← call env method [("deviceId", .string deviceID)] with
  | .error e => pure (.error e)
  | .ok answer => pure ((readObjects answer).elim (.error .undecodable) .ok)

/-- A call that is answered with an object. -/
def callObject (method : String) (params : List (String × Value)) : Sending Effect (Answer Value) := do
  match ← call env method params with
  | .error e => pure (.error e)
  | .ok answer =>
    pure (if answer.isObject || answer matches .null then .ok answer else .error .undecodable)

section Directory

def readHardwareID (deviceID : String) : Sending Effect (Answer String) := do
  match ← exec env (deviceArgs deviceID ["shell", hardwareIDCommand]) with
  | .error e => pure (.error e)
  | .ok output => pure (.ok (parseHardwareID env.toLower output.stdout))

/-- A parsed device, which has no hardware id yet, with the one that was read, if any. -/
def identified (candidate : Device) (hardwareID : String) : Device :=
  { candidate with
    hardwareID := if hardwareID ≠ "" then hardwareID else fallbackHardwareID candidate }

def identify (candidate : Device) : Sending Effect Device :=
  if candidate.state = "device" then do
    match ← readHardwareID env candidate.id with
    | .error _ => pure (identified candidate "")
    | .ok hardwareID => pure (identified candidate hardwareID)
  else pure (identified candidate "")

/-- The loop of `attachIdentityAndDedupe`. -/
def attachIdentity : List Device → Sending Effect (List Device)
  | [] => pure []
  | candidate :: rest => do
    let device ← identify env candidate
    let identified ← attachIdentity rest
    pure (device :: identified)

def listLive : Sending Effect (Answer (List Device)) := do
  match ← exec env ["devices", "-l"] with
  | .error e => pure (.error e)
  | .ok output => do
    let identified ← attachIdentity env (parseDevices output.stdout)
    pure (.ok (dedupeDevicesByHardwareID identified))

def deviceCatalogSaveFailed : AppError :=
  ⟨"DEVICE_CATALOG_SAVE_FAILED", "设备记忆目录保存失败", "device.catalog", false, none⟩

/-- `Service.List`. -/
def list : Sending Effect (Answer (List Device)) := do
  match ← listLive env with
  | .error e => pure (.error e)
  | .ok live => do
    let sent ← get
    match ((env.catalog sent).1.merge (env.catalog sent).2 live).2 with
    | .error .saveFailed => pure (.error (.app deviceCatalogSaveFailed ""))
    | .ok devices => pure (.ok devices)

/-- `Service.ResolveOnlineDeviceID`. -/
def resolveOnline (requested : String) : Sending Effect (Answer String) := do
  match ← exec env ["devices", "-l"] with
  | .error e => pure (.error e)
  | .ok output =>
    match resolveOnlineDeviceID (.ok output.stdout) requested with
    | .error e => pure (.error (.app e ""))
    | .ok resolved => pure (.ok resolved)

end Directory

section Companion

def probeCompanionPackage (deviceID : String) : Sending Effect (Answer (Option Int)) :=
  within .device fun sent => DeviceAction.probeCompanionPackage (env.device sent) deviceID

def ensureConfiguredCompanion (deviceID : String) : Sending Effect (Answer Unit) :=
  within .device fun sent => DeviceAction.ensureConfiguredCompanion (env.device sent) deviceID

def readCompanionCommandResult (deviceID : String) (requestID : List Char) :
    Sending Effect (Answer String) :=
  within .device fun sent =>
    DeviceAction.readCompanionCommandResult (env.device sent) deviceID requestID

/-- `executeCompanionCommand`, which does not look at the version. -/
def executeCompanionCommand (deviceID capabilityID operation : String) (args : Value) :
    Sending Effect (Answer String) :=
  if isBlank capabilityID ∨ isBlank operation then
    pure (.error (.app companionCommandInvalid ""))
  else do
    let sent ← get
    let requestID := randomRequestID ((env.device sent).buffer []) ((env.device sent).stamp [])
    let command := [' '].intercalate
      (broadcastTexts requestID capabilityID.toList operation.toList (env.marshal args))
    match ← exec env (deviceArgs deviceID ["shell", String.ofList command]) with
    | .error e => pure (.error e)
    | .ok _ =>
      match ← readCompanionCommandResult env deviceID requestID with
      | .error e => pure (.error e)
      | .ok payload =>
        match validateCompanionCommandResult (env.device sent).parse payload with
        | .error e => pure (.error (.app e ""))
        | .ok () => pure (.ok payload)

/-- `ExecuteCompanionCommand`, which looks at the version first. -/
def executeEnsuredCommand (deviceID capabilityID operation : String) (args : Value) :
    Sending Effect (Answer String) := do
  match ← ensureConfiguredCompanion env deviceID with
  | .error e => pure (.error e)
  | .ok () => executeCompanionCommand env deviceID capabilityID operation args

structure CompanionConnectionInfo where
  listenAddress : String
  serverName : String
  certificateDERBase64 : String

def companionConnectionInfo (answer : Value) : Option CompanionConnectionInfo := do
  let text (name : String) := (answer.memberOr name (.string "")).asStr
  let _ ← text "certificateFingerprintSha256"
  some ⟨← text "listenAddress", ← text "serverName", ← text "certificateDerBase64"⟩

def listenerAddressInvalid : AppError :=
  ⟨"COMPANION_QUIC_LISTENER_INVALID", "Core 返回了无效的伴侣 QUIC 监听地址", "companion.provision", false, none⟩

def listenerPortInvalid : AppError :=
  ⟨"COMPANION_QUIC_LISTENER_INVALID", "Core 返回了无效的伴侣 QUIC 端口", "companion.provision", false, none⟩

def identityMissing : AppError :=
  ⟨"COMPANION_QUIC_IDENTITY_MISSING", "Core 未提供完整的伴侣 QUIC TLS 身份", "companion.provision", false, none⟩

def publicHostInvalid : AppError :=
  ⟨"COMPANION_QUIC_PUBLIC_HOST_INVALID", "配置的伴侣 QUIC 局域网地址无效", "companion.provision", false, none⟩

def publicHostUnavailable : AppError :=
  ⟨"COMPANION_QUIC_PUBLIC_HOST_UNAVAILABLE", "无法自动确定手机可访问的 Core 局域网地址",
    "companion.provision", true,
    some "请设置 WEBADB_COMPANION_PUBLIC_HOST 为路由器或服务器的局域网 IP"⟩

def publicHostUnrouted : AppError :=
  ⟨"COMPANION_QUIC_PUBLIC_HOST_UNAVAILABLE", "无法根据无线设备路由确定 Core 局域网地址",
    "companion.provision", true,
    some "请设置 WEBADB_COMPANION_PUBLIC_HOST 为手机能够访问的局域网 IP"⟩

def configureBroadcastFailed : AppError :=
  ⟨"COMPANION_QUIC_CONFIGURE_BROADCAST_FAILED", "无法通过 ADB 向伴侣下发 QUIC 连接配置",
    "companion.provision", true,
    some "请确认设备仍在线、伴侣已安装，并允许 Core 的 UDP 伴侣端口通过防火墙"⟩

def trimmed (text : String) : String := String.ofList (trim text.toList)

def resolveCompanionPublicHost (deviceID : String) : Except AppError String :=
  let host := trimmed env.companionPublicHost
  if host ≠ "" then
    if env.parseIP host = some false then .ok host else .error publicHostInvalid
  else
    match env.splitHostPort (trimmed deviceID) with
    | none => .error publicHostUnavailable
    | some (deviceHost, _) =>
      if env.parseIP deviceHost = none then .error publicHostUnavailable
      else
        match env.routeLocalAddress deviceHost with
        | none => .error publicHostUnrouted
        | some host => if env.parseIP host = some false then .ok host else .error publicHostUnrouted

/-- `net.JoinHostPort`. -/
def joinHostPort (host : String) (port : Int) : String :=
  if ':' ∈ host.toList then "[" ++ host ++ "]:" ++ toString port else host ++ ":" ++ toString port

/-- A port as Core or adb tells it. -/
def readPort (text : List Char) : Option Int :=
  (Automation.atoi text).filter (fun port => 1 ≤ port ∧ port ≤ 65535)

/-- The texts of the command that configures the connection of the companion. -/
def configureTexts (endpoint deviceID : String) (info : CompanionConnectionInfo) : List (List Char) :=
  ["am".toList, "broadcast".toList, "--receiver-foreground".toList,
    "-a".toList, shellQuote "com.adbcontrol.companion.CONFIGURE_CONNECTION".toList,
    "-n".toList, shellQuote (companionPackageName.toList ++
      "/.quic.CompanionConnectionReceiver".toList),
    "--es".toList, "endpoint".toList, shellQuote endpoint.toList,
    "--es".toList, "deviceId".toList, shellQuote deviceID.toList,
    "--es".toList, "serverName".toList, shellQuote info.serverName.toList,
    "--es".toList, "certificateDerBase64".toList, shellQuote info.certificateDERBase64.toList]

/-- Where the companion is to connect to, and as whom it is to know Core. -/
def companionEndpoint (deviceID : String) (info : CompanionConnectionInfo) : Except AppError String :=
  match env.splitHostPort info.listenAddress with
  | none => .error listenerAddressInvalid
  | some (_, portText) =>
    match readPort portText.toList with
    | none => .error listenerPortInvalid
    | some port =>
      if isBlank info.serverName ∨ isBlank info.certificateDERBase64 then .error identityMissing
      else (resolveCompanionPublicHost env deviceID).map fun host => "quic://" ++ joinHostPort host port

def provisionCompanionQUIC (deviceID : String) : Sending Effect (Answer Unit) := do
  match ← callObject env "companion.connection.info" [] with
  | .error e => pure (.error e)
  | .ok answer =>
    match companionConnectionInfo answer with
    | none => pure (.error .undecodable)
    | some info =>
      match companionEndpoint env deviceID info with
      | .error e => pure (.error (.app e ""))
      | .ok endpoint => do
        let command := [' '].intercalate (configureTexts endpoint deviceID info)
        match ← exec env (deviceArgs deviceID ["shell", String.ofList command]) with
        | .error _ => pure (.error (.app configureBroadcastFailed ""))
        | .ok _ => pure (.ok ())

def provisionCompanionQUICIfDue (deviceID : String) : Sending Effect (Answer Bool) := do
  let sent ← get
  if env.provisionedRecently sent deviceID then pure (.ok false)
  else do
    match ← provisionCompanionQUIC env deviceID with
    | .error e => pure (.error e)
    | .ok () => pure (.ok true)

/-- The looks for the session that are left. -/
def pollCompanionQUIC (deviceID : String) : Nat → Sending Effect Bool
  | 0 => pure false
  | left + 1 => do
    match ← callObjects env "device.getCapabilities" deviceID with
    | .ok capabilities =>
      if companionCapabilityCatalogReady capabilities then pure true
      else pollCompanionQUIC deviceID left
    | .error e => if isSessionUnavailable e then pollCompanionQUIC deviceID left else pure false

/-- The first look comes before the wait. -/
def waitForCompanionQUIC (deviceID : String) : Sending Effect Bool := do
  let sent ← get
  pollCompanionQUIC env deviceID (env.ticks sent + 1)

def connectCompanionQUICIfPossible (deviceID : String) : Sending Effect Bool := do
  match ← provisionCompanionQUICIfDue env deviceID with
  | .error _ => pure false
  | .ok configured => if configured then waitForCompanionQUIC env deviceID else pure false

def companionQUICCatalogReady (deviceID : String) : Sending Effect Bool := do
  match ← callObjects env "device.getCapabilities" deviceID with
  | .error _ => pure false
  | .ok capabilities => pure (companionCapabilityCatalogReady capabilities)

/-- A list of the companion, and how it has been got. -/
abbrev Collection := List Value × CompanionTransport

/-- The static catalog of Core. -/
def staticCapabilities : Sending Effect (Answer Collection) := do
  match ← call env "capability.list" [] with
  | .error e => pure (.error e)
  | .ok answer =>
    pure ((readObjects answer).elim (.error .undecodable) (fun items => .ok (items, .adbBroadcast)))

/-- The second look of `CompanionCapabilities`. -/
def capabilitiesAfterConnect (deviceID : String) : Sending Effect (Answer Collection) := do
  if ← connectCompanionQUICIfPossible env deviceID then
    match ← callObjects env "device.getCapabilities" deviceID with
    | .error _ => staticCapabilities env
    | .ok capabilities =>
      if companionCapabilityCatalogReady capabilities then pure (.ok (capabilities, .quic))
      else staticCapabilities env
  else staticCapabilities env

def companionCapabilities (deviceID : String) : Sending Effect (Answer Collection) := do
  match ← ensureConfiguredCompanion env deviceID with
  | .error e => pure (.error e)
  | .ok () =>
    match ← callObjects env "device.getCapabilities" deviceID with
    | .ok capabilities =>
      if companionCapabilityCatalogReady capabilities then pure (.ok (capabilities, .quic))
      else capabilitiesAfterConnect env deviceID
    | .error e =>
      if isSessionUnavailable e then capabilitiesAfterConnect env deviceID else pure (.error e)

/-- The second look of `CompanionPermissions`. -/
def permissionsAfterConnect (deviceID : String) : Sending Effect (Answer Collection) := do
  if ← connectCompanionQUICIfPossible env deviceID then
    match ← callObjects env "device.getPermissionState" deviceID with
    | .error _ => pure (.ok ([], .adbBroadcast))
    | .ok permissions =>
      if ← companionQUICCatalogReady env deviceID then pure (.ok (permissions, .quic))
      else pure (.ok ([], .adbBroadcast))
  else pure (.ok ([], .adbBroadcast))

def companionPermissions (deviceID : String) : Sending Effect (Answer Collection) := do
  match ← ensureConfiguredCompanion env deviceID with
  | .error e => pure (.error e)
  | .ok () =>
    match ← callObjects env "device.getPermissionState" deviceID with
    | .ok permissions =>
      if ← companionQUICCatalogReady env deviceID then pure (.ok (permissions, .quic))
      else permissionsAfterConnect env deviceID
    | .error e =>
      if isSessionUnavailable e then permissionsAfterConnect env deviceID else pure (.error e)

/-- The parameters of `device.invoke`. -/
def invokeParams (deviceID capabilityID operation : String) (args : Value) : List (String × Value) :=
  [("deviceId", .string deviceID), ("capabilityId", .string capabilityID),
    ("operation", .string operation), ("args", args)]

/-- The end of `InvokeCompanionCapability`. -/
def broadcastCapability (deviceID capabilityID operation : String) (args : Value) :
    Sending Effect (Answer (Value × CompanionTransport)) := do
  match ← executeCompanionCommand env deviceID capabilityID operation args with
  | .error e => pure (.error e)
  | .ok payload => do
    let sent ← get
    match readPayload (env.device sent).parse payload with
    | .ok result => pure (.ok (result, .adbBroadcast))
    | .error (.app e) => pure (.error (.app e ""))
    | .error .cancelled => pure (.error .cancelled)

def invokeCompanionCapability (deviceID capabilityID operation : String) (args : Value) :
    Sending Effect (Answer (Value × CompanionTransport)) := do
  match ← ensureConfiguredCompanion env deviceID with
  | .error e => pure (.error e)
  | .ok () =>
    match ← callObject env "device.invoke" (invokeParams deviceID capabilityID operation args) with
    | .ok result => pure (.ok (result, .quic))
    | .error e =>
      if !isSessionUnavailable e then pure (.error e)
      else if ← connectCompanionQUICIfPossible env deviceID then
        match ← callObject env "device.invoke" (invokeParams deviceID capabilityID operation args) with
        | .ok result => pure (.ok (result, .quic))
        | .error _ => broadcastCapability env deviceID capabilityID operation args
      else broadcastCapability env deviceID capabilityID operation args

/-- The end of `CompanionStatus`, when there is no session. -/
def provisionedStatus (deviceID : String) : Sending Effect (Answer String) := do
  match ← provisionCompanionQUICIfDue env deviceID with
  | .error _ => pure (.ok "adb-responsive")
  | .ok configured =>
    if !configured then pure (.ok "adb-responsive")
    else do
      let connected ← waitForCompanionQUIC env deviceID
      pure (.ok (if connected then "ready" else "quic-connecting"))

/-- `CompanionStatus`: the state it tells. -/
def companionStatus (deviceID : String) : Sending Effect (Answer String) := do
  match ← probeCompanionPackage env deviceID with
  | .error e => pure (.error e)
  | .ok none => pure (.ok "missing")
  | .ok (some installed) => do
    let sent ← get
    if (env.device sent).requirement.any (fun required => installed < required) then
      pure (.ok "outdated")
    else
      match ← executeCompanionCommand env deviceID accessibilityControl "accessibility.status"
        (.object []) with
      | .error _ => pure (.ok "adb-unreachable")
      | .ok _ =>
        match ← callObjects env "device.getCapabilities" deviceID with
        | .ok capabilities =>
          if companionCapabilityCatalogReady capabilities then pure (.ok "ready")
          else provisionedStatus env deviceID
        | .error e =>
          if isSessionUnavailable e then provisionedStatus env deviceID
          else pure (.ok "adb-responsive")

end Companion

section Packages

def packagePageArgs (names : List String) : Value :=
  .object [("includeSystem", .bool true), ("includeIcons", .bool true),
    ("iconSizePx", .number (.posInt 48)), ("offset", .number (.posInt 0)),
    ("limit", .number (.posInt names.length)), ("packageNames", .array (names.map Value.string))]

/-- The loop of `applyCompanionPackageMetadata` over the pages that are left. -/
def applyPages (deviceID : String) : List (List String) → Sending Effect (Answer Unit)
  | [] => pure (.ok ())
  | page :: rest => do
    match ← executeEnsuredCommand env deviceID "android.app.list" "app.list" (packagePageArgs page) with
    | .error e => pure (.error e)
    | .ok payload =>
      if env.readsMetadata payload then applyPages deviceID rest else pure (.error .undecodable)

def applyCompanionPackageMetadata (deviceID : String) (packages : List PackageInfo) :
    Sending Effect (Answer Unit) :=
  applyPages env deviceID ((packages.map (·.package)).toChunks 64)

/-- `Service.Packages`; what the companion tells of a package is left out. -/
def packages (deviceID : String) : Sending Effect (Answer (List PackageInfo)) := do
  match ← exec env
    (deviceArgs deviceID ["shell", "pm", "list", "packages", "-f", "--show-versioncode"]) with
  | .error e => pure (.error e)
  | .ok output => do
    let _ ← exec env (deviceArgs deviceID ["shell", "dumpsys", "package"])
    let _ ← applyCompanionPackageMetadata env deviceID (parsePackageList output.stdout)
    pure (.ok (parsePackageList output.stdout))

end Packages

section Screen

def screenshotBusy : AppError :=
  ⟨"SCREENSHOT_BUSY", "上一帧截图仍在处理中", "device.screen", true,
    some "请增大截图刷新间隔，系统不会排队积压截图请求"⟩

def screenshotInvalid : AppError :=
  ⟨"SCREENSHOT_INVALID", "设备截图无法解析", "device.screen", true, none⟩

/-- A map in a map, as the type assertions of Go find it. -/
def objectAt (v : Value) (key : String) : Value :=
  match v.get? key with
  | some (.object members) => .object members
  | _ => .null

def companionInvocationResult (envelope : Value) : Value :=
  match envelope.get? "result" with
  | some (.object members) => .object members
  | _ => objectAt (objectAt (objectAt envelope "envelope") "payload") "result"

/-- The screenshot by adb. -/
def captureScreen (deviceID : String) : Sending Effect (Answer String) := do
  match ← exec env ["-s", deviceID, "shell", "screencap -p | base64"] with
  | .error e => pure (.error e)
  | .ok output =>
    let cleaned := output.stdout.toList.filter (fun c => c != '\r' && c != '\n' && c != ' ')
    pure (if (env.decodeBase64 cleaned).isSome then .ok "adb" else .error (.app screenshotInvalid ""))

/-- The picture in the companion's answer; a missing text is empty. -/
def companionPicture (envelope : Value) : Option (List UInt8) :=
  let encoded := (((companionInvocationResult envelope).get? "pngBase64").bind Value.asStr).getD ""
  (env.decodeBase64 encoded.toList).filter (fun png => 8 < png.length)

/-- `ScreenshotWithSource`: the source. -/
def screenshotWithSource (deviceID : String) : Sending Effect (Answer String) := do
  let sent ← get
  let state := env.screenshots sent deviceID
  if state.busy then pure (.error (.app screenshotBusy ""))
  else
    match state.fresh with
    | some source => pure (.ok (source ++ "-cache"))
    | none =>
      if state.companionDue then do
        match ← callObject env "device.invoke" (invokeParams deviceID accessibilityControl
          "accessibility.screenshot" (.object [("maxSize", .number (.posInt 960))])) with
        | .error _ => captureScreen env deviceID
        | .ok envelope =>
          if (companionPicture env envelope).isSome then pure (.ok "companion")
          else captureScreen env deviceID
      else captureScreen env deviceID

/-- `ScreenControlTransport`; what it remembers of the device is not used here. -/
def screenControlTransport (deviceID : String) : Sending Effect (Answer DeviceAction.ScreenControl) := do
  match ← exec env (deviceArgs deviceID ["shell", "input", "keyevent", "KEYCODE_UNKNOWN"]) with
  | .ok _ => pure (.ok .scrcpy)
  | .error e => do
    let sent ← get
    pure (if DeviceAction.isInputInjectionDenied (env.device sent) e then .ok .companion else .error e)

structure ScrcpyOptions where
  maxSize : Int := 0
  bitRate : Int := 0
  frameRate : Int := 0

def normalizeScrcpyOptions (options : ScrcpyOptions) : ScrcpyOptions where
  maxSize := if options.maxSize < 128 ∨ 4096 < options.maxSize then 1280 else options.maxSize
  bitRate := if options.bitRate < 500000 ∨ 32000000 < options.bitRate then 4000000 else options.bitRate
  frameRate := if options.frameRate < 1 ∨ 60 < options.frameRate then 30 else options.frameRate

def scrcpyCompanionMissing : AppError :=
  ⟨"SCRCPY_COMPANION_MISSING", "设备未安装 ADBControl 伴侣", "device.screen", true,
    some "请先在“ADB 伴侣”页面完成安装，再启动实时投屏"⟩

def scrcpySessionIDFailed : AppError :=
  ⟨"SCRCPY_SESSION_ID_FAILED", "无法创建投屏会话", "device.screen", true, none⟩

def scrcpyForwardInvalid : AppError :=
  ⟨"SCRCPY_FORWARD_INVALID", "ADB 未返回有效的投屏转发端口", "device.screen", true, none⟩

/-- The path on the first line of `pm path` that has one. -/
def packagePath (output : String) : Option String :=
  (output.toList.splitOn '\n').findSome? fun line =>
    match (trim line).dropPrefix? "package:".toList with
    | some (c :: path) => some (String.ofList (c :: path))
    | _ => none

def companionAPKPath (deviceID : String) : Sending Effect (Answer String) := do
  match ← exec env (deviceArgs deviceID ["shell", "pm", "path", companionPackageName]) with
  | .error e => pure (.error e)
  | .ok output =>
    pure ((packagePath output.stdout).elim (.error (.app scrcpyCompanionMissing "")) .ok)

/-- `randomScrcpyID`, from four random bytes. -/
def scrcpyID (random : Vector UInt8 4) : UInt32 :=
  let drawn := random.toList.foldl (fun (n : UInt32) b => (n <<< 8) ||| b.toUInt32) 0
  (drawn &&& 0x6fffffff) ||| 0x10000000

/-- `%08x`. -/
def hex8 (n : UInt32) : String :=
  String.ofList ((List.range 8).reverse.map fun i => (n.toNat / 16^i % 16).digitChar)

structure ScrcpySession where
  deviceID : String
  sessionID : String
  port : Int

/-- The process is stopped, and the forwarding of its port removed. -/
def ScrcpySession.close (session : ScrcpySession) : Sending Effect Unit := do
  let _ ← call env "adb.scrcpy.stop" [("sessionId", .string session.sessionID)]
  let _ ← exec env
    (deviceArgs session.deviceID ["forward", "--remove", "tcp:" ++ toString session.port])
  pure ()

def scrcpyStartParams (deviceID apkPath : String) (scid : UInt32) (options : ScrcpyOptions) :
    List (String × Value) :=
  let number (n : Int) : Value := .number (if n < 0 then .negInt n else .posInt n.toNat)
  [("sessionId", .string ("web-" ++ hex8 scid)), ("deviceId", .string deviceID),
    ("apkPath", .string apkPath), ("scid", number scid.toNat), ("maxSize", number options.maxSize),
    ("videoBitRate", number options.bitRate), ("maxFps", number options.frameRate)]

/-- `StartScrcpy`, once the apk and the id of the session are there. -/
def openScrcpy (deviceID apkPath : String) (scid : UInt32) (options : ScrcpyOptions) :
    Sending Effect (Answer ScrcpySession) := do
  match ← exec env
    (deviceArgs deviceID ["forward", "tcp:0", "localabstract:scrcpy_" ++ hex8 scid]) with
  | .error e => pure (.error e)
  | .ok forward =>
    match readPort (trim forward.stdout.toList) with
    | none => pure (.error (.app scrcpyForwardInvalid ""))
    | some port => do
      let session : ScrcpySession := ⟨deviceID, "web-" ++ hex8 scid, port⟩
      match ← call env "adb.scrcpy.start" (scrcpyStartParams deviceID apkPath scid options) with
      | .error e => do
        let _ ← exec env (deviceArgs deviceID ["forward", "--remove", "tcp:" ++ toString port])
        pure (.error e)
      | .ok _ => do
        let sent ← get
        match env.connectScrcpy sent port.toNat with
        | .error e => do
          session.close env
          pure (.error e)
        | .ok () => pure (.ok session)

def startScrcpy (deviceID : String) (options : ScrcpyOptions) :
    Sending Effect (Answer ScrcpySession) := do
  match ← companionAPKPath env deviceID with
  | .error e => pure (.error e)
  | .ok apkPath => do
    let sent ← get
    match env.scrcpyRandom sent with
    | none => pure (.error (.app scrcpySessionIDFailed ""))
    | some random =>
      openScrcpy env deviceID apkPath (scrcpyID random) (normalizeScrcpyOptions options)

end Screen

end AdbControl.Server.DeviceService
