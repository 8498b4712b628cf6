import AdbControl.Server.DeviceService

namespace AdbControl.Server.RemoteHandlers

open Framework
open AdbControl.Server.DeviceAction (Failure)
open AdbControl.Server.DeviceService (Effect ServiceEnv)

structure RemoteSession where
  username : String
  role : String
  devices : List String
  passwordChangeRequired : Bool

def RemoteSession.canAccessDevice (session : RemoteSession) (deviceID : String) : Bool :=
  session.devices.any fun assigned => equivalentDeviceID assigned deviceID

structure InvokeBody where
  capabilityID : String
  operation : String
  args : Value

/-- What a handler reads of its request: the session in the context, the path value, whether it can
be upgraded to a websocket, a query, and the body as it is decoded, if it can be. -/
structure Request where
  session : Option RemoteSession
  id : String
  upgrades : Bool := false
  fps : String := ""
  metrics : Option (List String) := none
  invocation : Option InvokeBody := none

/-- An error with its status, a card of the directory, or what else a request is served with. -/
inductive Response
  | failed (status : Nat) (e : Failure)
  | card (device : Device)
  | served

def errForbidden : AppError :=
  ⟨"AUTH_FORBIDDEN", "当前账户无权执行此操作或访问该设备", "api.auth", false, none⟩

def requestInvalid : AppError := ⟨"REQUEST_INVALID", "请求内容无效", "api.request", true, none⟩

def deviceNotFound : AppError :=
  ⟨"DEVICE_NOT_FOUND", "设备目录中没有该设备", "device.catalog", false, none⟩

def Response.forbidden : Response := .failed 403 (.app errForbidden "")

abbrev Serving := Sending Effect Response

variable (env : ServiceEnv)

/-- Bad gateway, if the service has failed. -/
def gateway {α : Type} (served : Sending Effect (Except Failure α)) : Serving := do
  match ← served with
  | .error e => pure (.failed 502 e)
  | .ok _ => pure .served

section Shared

def screenFrameRate (requested : String) (configured : Int) : Int :=
  let configured := if configured < 1 ∨ 60 < configured then 30 else configured
  if isBlank requested then configured
  else
    match Automation.atoi requested.toList with
    | none => configured
    | some fps => if fps < 1 then configured else min fps 60

/-- While the packets of the session are passed on, the device is not named again. -/
def serveScreenSocket (request : Request) : Serving :=
  if !request.upgrades then pure .served
  else do
    let _ ← DeviceService.screenControlTransport env request.id
    match ← DeviceService.startScrcpy env request.id
      { frameRate := screenFrameRate request.fps 30 } with
    | .error _ => pure .served
    | .ok session => do
      session.close env
      pure .served

def packages (request : Request) : Serving := gateway (DeviceService.packages env request.id)

def screenshot (request : Request) : Serving :=
  gateway (DeviceService.screenshotWithSource env request.id)

def hardwareMonitorStatus (request : Request) : Serving := do
  send (.monitorStatus request.id)
  pure .served

def startHardwareMonitor (request : Request) : Serving :=
  match request.metrics with
  | none => pure (.failed 400 (.app requestInvalid ""))
  | some metrics => do
    send (.startMonitor request.id metrics)
    pure .served

def stopHardwareMonitor (request : Request) : Serving := do
  send (.stopMonitor request.id)
  pure .served

def companionStatus (request : Request) : Serving :=
  gateway (DeviceService.companionStatus env request.id)

def capabilities (request : Request) : Serving :=
  gateway (DeviceService.companionCapabilities env request.id)

def permissions (request : Request) : Serving :=
  gateway (DeviceService.companionPermissions env request.id)

def invokeCapability (request : Request) : Serving :=
  match request.invocation with
  | none => pure (.failed 400 (.app requestInvalid ""))
  | some body => gateway (DeviceService.invokeCompanionCapability env request.id body.capabilityID
      body.operation body.args)

end Shared

/-- The session may use the device that is asked for. -/
def Request.allowed (request : Request) : Bool :=
  request.session.any fun session => session.canAccessDevice request.id

/-- The request with the serial that adb has for the device now, or its refusal. -/
def requireRemoteDevice (request : Request) : Sending Effect (Except Response Request) :=
  if !request.allowed then pure (.error .forbidden)
  else do
    match ← DeviceService.resolveOnline env request.id with
    | .error e => pure (.error (.failed 502 e))
    | .ok resolved => pure (.ok { request with id := resolved })

/-- A shared handler behind `requireRemoteDevice`. -/
def behindDevice (shared : Request → Serving) (request : Request) : Serving := do
  match ← requireRemoteDevice env request with
  | .error refusal => pure refusal
  | .ok request => shared request

def isRequested (requested : String) (candidate : Device) : Bool :=
  candidate.ids.any fun id => id == requested || equivalentDeviceID id requested

def remoteDeviceMetadata (request : Request) : Serving :=
  if !request.allowed then pure .forbidden
  else do
    match ← DeviceService.list env with
    | .error e => pure (.failed 503 e)
    | .ok devices =>
      match devices.find? (isRequested request.id) with
      | none => pure (.failed 404 (.app deviceNotFound ""))
      | some candidate => pure (.card candidate)

/-- The handlers under `/api/v1/remote/devices/\x7bid\x7d/`. -/
inductive RemoteHandler
  | remoteScreenSocket
  | remoteDeviceMetadata
  | remotePackages
  | remoteScreenshot
  | remoteHardwareMonitorStatus
  | remoteStartHardwareMonitor
  | remoteStopHardwareMonitor
  | remoteCompanionStatus
  | remoteCapabilities
  | remotePermissions
  | remoteInvokeCapability
  deriving DecidableEq

/-- The routes that are registered, by their method and what follows the id. -/
def routes : List (String × String × RemoteHandler) :=
  [("GET", "screen", .remoteScreenSocket), ("GET", "metadata", .remoteDeviceMetadata),
    ("GET", "packages", .remotePackages), ("GET", "screenshot", .remoteScreenshot),
    ("GET", "hardware-monitor", .remoteHardwareMonitorStatus),
    ("POST", "hardware-monitor/start", .remoteStartHardwareMonitor),
    ("POST", "hardware-monitor/stop", .remoteStopHardwareMonitor),
    ("GET", "companion/status", .remoteCompanionStatus),
    ("GET", "capabilities", .remoteCapabilities), ("GET", "permissions", .remotePermissions),
    ("POST", "capabilities/invoke", .remoteInvokeCapability)]

example (handler : RemoteHandler) : handler ∈ routes.map (fun route => route.2.2) := by
  cases handler <;> decide

def RemoteHandler.serve (request : Request) : RemoteHandler → Serving
  | .remoteScreenSocket => behindDevice env (serveScreenSocket env) request
  | .remoteDeviceMetadata => RemoteHandlers.remoteDeviceMetadata env request
  | .remotePackages => behindDevice env (packages env) request
  | .remoteScreenshot => behindDevice env (screenshot env) request
  | .remoteHardwareMonitorStatus => behindDevice env hardwareMonitorStatus request
  | .remoteStartHardwareMonitor => behindDevice env startHardwareMonitor request
  | .remoteStopHardwareMonitor => behindDevice env stopHardwareMonitor request
  | .remoteCompanionStatus => behindDevice env (companionStatus env) request
  | .remoteCapabilities => behindDevice env (capabilities env) request
  | .remotePermissions => behindDevice env (permissions env) request
  | .remoteInvokeCapability => behindDevice env (invokeCapability env) request

end AdbControl.Server.RemoteHandlers
