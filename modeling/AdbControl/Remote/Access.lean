import AdbControl.Remote.Auth
import AdbControl.Remote.Identity
import AdbControl.Framework.Outcome

namespace AdbControl.Remote

open Framework

structure RemoteRequest where
  id : String
  sessionToken : Option String
  method : String
  params : Value

def permissionDenied : AppError :=
  ⟨"REMOTE_AUTH_FORBIDDEN",
    "The remote account is not authorized for this operation or device.", "remote.auth", false,
    none⟩

def requireAdmin (session : AuthenticatedSession) : Except AppError Unit :=
  if session.role = .admin then .ok () else .error permissionDenied

def sessionCanAccessDevice (session : AuthenticatedSession) (deviceId : String) : Bool :=
  session.devices.toList.any (fun assigned => sameRemoteDeviceIdentity assigned deviceId)

/-- The methods a user may call for no device in particular. -/
def userMethods : List String :=
  ["core.getHostTarget", "adb.asset.current", "companion.protocol.info", "capability.list",
    "device.list"]

/-- The methods that address `params.deviceId`. -/
def deviceMethods : List String :=
  ["device.getCapabilities", "device.getPermissionState", "device.invoke"]

def isDeviceScopedAdbCommand (command : String) : Bool :=
  ["shell", "exec-out", "push", "pull", "install", "install-multiple", "install-multi-package",
    "uninstall", "forward", "reverse", "reboot", "root", "unroot", "remount", "disable-verity",
    "enable-verity", "bugreport", "logcat", "jdwp", "get-state", "get-serialno", "get-devpath",
    "features"].contains command

def adbArgs (params : Value) : Option (List Value) := (params.get? "args").bind Value.asArray

/-- The serial of ADB's global `-s <serial>` position. -/
def adbSelector : List Value → Option String
  | selector :: deviceId :: _ => if selector.asStr = some "-s" then deviceId.asStr else none
  | _ => none

def authorizeDeviceId (deviceId : Option Value) (session : AuthenticatedSession) :
    Except AppError Unit :=
  let deviceId := (deviceId.bind Value.asStr).getD ""
  if deviceId ≠ "" ∧ sessionCanAccessDevice session deviceId then .ok ()
  else .error permissionDenied

def authorizeUserCoreRequest (request : RemoteRequest) (session : AuthenticatedSession) :
    Except AppError Unit :=
  if request.method ∈ userMethods then .ok ()
  else if request.method ∈ deviceMethods then
    authorizeDeviceId (request.params.get? "deviceId") session
  else if request.method = "adb.exec" then
    match adbArgs request.params with
    | none => .error permissionDenied
    | some args =>
      match adbSelector args, args[2]?.bind Value.asStr with
      | some deviceId, some command =>
        if sessionCanAccessDevice session deviceId ∧ isDeviceScopedAdbCommand command then .ok ()
        else .error permissionDenied
      | _, _ => .error permissionDenied
  else .error permissionDenied

/-- The device a request acts on: the serial behind `-s` of an ADB call, `params.deviceId` of
the device methods. -/
def addressedDevice (method : String) (params : Value) : Option String :=
  if method = "adb.exec" then (adbArgs params).bind adbSelector
  else if method ∈ deviceMethods then (params.get? "deviceId").bind Value.asStr
  else none

/-- What a user may send to the core: a method for no device, or one on a device with the
identity of an assigned one, and then of ADB only commands that stay on the device. -/
def Confined (session : AuthenticatedSession) (method : String) (params : Value) : Prop :=
  method ∈ userMethods ∨ ∃ deviceId, addressedDevice method params = some deviceId ∧
    (∃ assigned ∈ session.devices, sameRemoteDeviceIdentity assigned deviceId = true) ∧
    (method = "adb.exec" → ∃ args command, adbArgs params = some args ∧
      args[2]?.bind Value.asStr = some command ∧ isDeviceScopedAdbCommand command = true)

theorem sessionCanAccessDevice_iff (session : AuthenticatedSession) (deviceId : String) :
    sessionCanAccessDevice session deviceId = true ↔
      ∃ assigned ∈ session.devices, sameRemoteDeviceIdentity assigned deviceId = true := by
  simp [sessionCanAccessDevice, List.any_eq_true]

theorem authorizeDeviceId_ok {deviceId : Option Value} {session : AuthenticatedSession} :
    authorizeDeviceId deviceId session = .ok () ↔ ∃ d, deviceId.bind Value.asStr = some d ∧
      d ≠ "" ∧ sessionCanAccessDevice session d = true := by
  unfold authorizeDeviceId
  cases hd : deviceId.bind Value.asStr with
  | none => simp
  | some d => simp

/-- What passes the authorization is confined. -/
theorem confined_of_authorized {request : RemoteRequest} {session : AuthenticatedSession}
    (h : authorizeUserCoreRequest request session = .ok ()) :
    Confined session request.method request.params := by
  unfold authorizeUserCoreRequest at h
  split_ifs at h with huser hdevice hadb
  · exact Or.inl huser
  · obtain ⟨d, hd, -, haccess⟩ := authorizeDeviceId_ok.mp h
    have hadb : request.method ≠ "adb.exec" := by
      intro he
      rw [he] at hdevice
      revert hdevice
      decide
    have haddressed : addressedDevice request.method request.params = some d := by
      rw [addressedDevice, if_neg hadb, if_pos hdevice, hd]
    exact Or.inr ⟨d, haddressed, (sessionCanAccessDevice_iff session d).mp haccess,
      fun he => absurd he hadb⟩
  · split at h
    · cases h
    · next args hargs =>
      split at h
      · next d command hselector hcommand =>
        split_ifs at h with hallowed
        have haddressed : addressedDevice request.method request.params = some d := by
          rw [addressedDevice, if_pos hadb, hargs, Option.bind_some, hselector]
        exact Or.inr ⟨d, haddressed, (sessionCanAccessDevice_iff session d).mp hallowed.1,
          fun _ => ⟨args, command, hargs, hcommand, hallowed.2⟩⟩
      · cases h

end AdbControl.Remote
