import AdbControl.Ipc
import AdbControl.Remote.Access

namespace AdbControl.Remote

open Framework

def remoteProtocol : String := "adbcontrol-core-remote-quic"
def remoteProtocolVersion : Nat := 1

structure RemoteResponse where
  id : Option String
  ok : Bool
  result : Option Value
  error : Option AppError

namespace RemoteResponse

def success (id : String) (result : Value) : RemoteResponse := ⟨some id, true, some result, none⟩

def failure (id : Option String) (error : AppError) : RemoteResponse :=
  ⟨id, false, none, some error⟩

def ofOutcome (id : String) : Except AppError Value → RemoteResponse
  | .ok result => success id result
  | .error e => failure (some id) e

end RemoteResponse

/-- `id` and `method` are required; the token and the parameters default. -/
def RemoteRequest.ofJson (v : Value) : Option RemoteRequest := do
  let [id, sessionToken, method, params] ←
    v.structFields ["id", "sessionToken", "method", "params"] | none
  let id ← id.bind Value.asStr
  let sessionToken ← match sessionToken with
    | none | some .null => some none
    | some token => token.asStr.map some
  let method ← method.bind Value.asStr
  some ⟨id, sessionToken, method, params.getD .null⟩

def parseParams {α : Type} (decode : Value → Option α) (params : Value) : Except AppError α :=
  parseParamsWith "Remote request parameters are invalid." decode params

/-- The members of a parameter object that are all required strings. -/
def stringParams (names : List String) (params : Value) : Option (List String) :=
  (params.structFields names).bind (·.mapM (·.bind Value.asStr))

structure Credentials where
  username : String
  password : String

def Credentials.ofJson (params : Value) : Option Credentials := do
  let [username, password] ← stringParams ["username", "password"] params | none
  some ⟨username, password⟩

structure ChangePasswordParams where
  currentPassword : String
  newPassword : String

def ChangePasswordParams.ofJson (params : Value) : Option ChangePasswordParams := do
  let [currentPassword, newPassword] ← stringParams ["currentPassword", "newPassword"] params
    | none
  some ⟨currentPassword, newPassword⟩

structure DeleteUserParams where
  username : String

def DeleteUserParams.ofJson (params : Value) : Option DeleteUserParams := do
  let [username] ← stringParams ["username"] params | none
  some ⟨username⟩

structure ResetPasswordParams where
  username : String
  newPassword : String

def ResetPasswordParams.ofJson (params : Value) : Option ResetPasswordParams := do
  let [username, newPassword] ← stringParams ["username", "newPassword"] params | none
  some ⟨username, newPassword⟩

structure AssignDeviceParams where
  username : String
  deviceId : String
  assigned : Bool

/-- `assigned` defaults to true. -/
def AssignDeviceParams.ofJson (params : Value) : Option AssignDeviceParams := do
  let [username, deviceId, assigned] ← params.structFields ["username", "deviceId", "assigned"]
    | none
  let username ← username.bind Value.asStr
  let deviceId ← deviceId.bind Value.asStr
  let assigned ← (assigned.getD (.bool true)).asBool
  some ⟨username, deviceId, assigned⟩

/-- A client's diagnostic event. What the log makes of it is left out. -/
structure ClientEvent where
  level : String
  phase : String
  module : String
  ok : Bool
  elapsedMs : Nat
  errorCode : String
  detail : String

/-- Every field of a diagnostic event defaults. -/
def ClientEvent.ofJson (v : Value) : Option ClientEvent := do
  let [level, phase, module, ok, elapsedMs, errorCode, detail] ← v.structFields
    ["level", "phase", "module", "ok", "elapsedMs", "errorCode", "detail"] | none
  let text (field : Option Value) : Option String := (field.getD (.string "")).asStr
  let level ← text level
  let phase ← text phase
  let module ← text module
  let ok ← (ok.getD (.bool false)).asBool
  let elapsedMs ← (elapsedMs.getD (.number (.posInt 0))).asUnsigned 64
  let errorCode ← text errorCode
  let detail ← text detail
  some ⟨level, phase, module, ok, elapsedMs, errorCode, detail⟩

structure DiagnosticsParams where
  sessionId : String
  events : List ClientEvent

def DiagnosticsParams.ofJson (params : Value) : Option DiagnosticsParams := do
  let [sessionId, events] ← params.structFields ["sessionId", "events"] | none
  let sessionId ← (sessionId.getD (.string "")).asStr
  let events ← (← events.bind Value.asArray).mapM ClientEvent.ofJson
  some ⟨sessionId, events⟩

def RemoteAccount.toJson (a : RemoteAccount) : Value :=
  .object [("username", .string a.username), ("role", a.role.toJson),
    ("devices", .array (a.devices.map .string)), ("builtIn", .bool a.builtIn),
    ("passwordChangeRequired", .bool a.passwordChangeRequired)]

def devicesJson (devices : KeySet String) : Value := .array (devices.toList.map .string)

/-- What the services of one process share: the accounts, and the state of the core. -/
structure World (σ : Type) where
  accounts : RemoteAccountManager
  core : σ

/-- What is drawn while one request is served, and where its save stops. -/
structure Draws where
  token : String
  salt : List UInt8
  fault : Option PersistFault

/-- `CoreRequestHandler::handle_core_request`. -/
abbrev CoreRequestHandler (σ : Type) := World σ → Draws → IpcRequest → World σ × IpcResponse

/-- Why the service calls the core: to look a device up, to list the ADB devices, or to pass a
request on. -/
inductive CallOrigin
  | deviceCheck
  | adbDevices
  | forward
  deriving DecidableEq, Repr

structure CoreCall where
  origin : CallOrigin
  request : IpcRequest

/-- One request served: the world it leaves, its calls to the core in order, the session it was
served with, and the response. -/
structure Exchange (σ : Type) where
  world : World σ
  calls : List CoreCall
  servedAs : Option AuthenticatedSession
  response : RemoteResponse

namespace RemoteControlService

variable {σ : Type} (P : Platform) (H : CoreRequestHandler σ) (w : World σ) (d : Draws)
  (request : RemoteRequest) (session : AuthenticatedSession)

/-- An answer that neither calls the core nor changes anything. -/
def answer (servedAs : Option AuthenticatedSession) (response : RemoteResponse) : Exchange σ :=
  ⟨w, [], servedAs, response⟩

def fail (servedAs : Option AuthenticatedSession) (e : AppError) : Exchange σ :=
  answer w servedAs (.failure (some request.id) e)

/-- An account operation whose result becomes the response. -/
def account (servedAs : Option AuthenticatedSession)
    (r : RemoteAccountManager × Except AppError Value) : Exchange σ :=
  ⟨{ w with accounts := r.1 }, [], servedAs, .ofOutcome request.id r.2⟩

def login : Exchange σ :=
  match parseParams Credentials.ofJson request.params with
  | .error e => fail w request none e
  | .ok params =>
    if params.username = defaultAdminUsername then
      fail w request none ⟨"REMOTE_AUTH_ADMIN_LOCAL_ONLY",
        "The built-in administrator can only sign in through the local management frontend.",
        "remote.auth", false, none⟩
    else
      let r := w.accounts.login P params.username params.password d.token
      account w request none (r.1, r.2.map (fun session => .object
        [("protocol", .string remoteProtocol),
          ("protocolVersion", .number (.posInt remoteProtocolVersion)),
          ("sessionToken", .string session.token), ("username", .string session.username),
          ("role", session.role.toJson), ("devices", devicesJson session.devices),
          ("passwordChangeRequired", .bool session.passwordChangeRequired)]))

def me : Exchange σ :=
  answer w (some session) (.success request.id (.object [("username", .string session.username),
    ("role", session.role.toJson), ("devices", devicesJson session.devices),
    ("passwordChangeRequired", .bool session.passwordChangeRequired)]))

def logout (token : String) : Exchange σ :=
  let r := w.accounts.logout token
  account w request (some session) (r.1, r.2.map (fun _ => .object [("loggedOut", .bool true)]))

def changePassword : Exchange σ :=
  match parseParams ChangePasswordParams.ofJson request.params with
  | .error e => fail w request (some session) e
  | .ok params =>
    let r := w.accounts.changeOwnPassword P session.username params.currentPassword
      params.newPassword d.salt d.fault
    account w request (some session) (r.1, r.2.map (fun _ => .object
      [("passwordChanged", .bool true), ("loginRequired", .bool true)]))

def reportDiagnostics : Exchange σ :=
  match parseParams DiagnosticsParams.ofJson request.params with
  | .error e => fail w request (some session) e
  | .ok params =>
    if params.events.isEmpty ∨ 50 < params.events.length then
      fail w request (some session) ⟨"REMOTE_DIAGNOSTIC_BATCH_INVALID",
        "Diagnostic batches must contain between 1 and 50 events.", "remote.diagnostics", true,
        none⟩
    else
      answer w (some session) (.success request.id
        (.object [("accepted", .number (.posInt params.events.length))]))

def adminListUsers : Exchange σ :=
  match requireAdmin session with
  | .error e => fail w request (some session) e
  | .ok () =>
    answer w (some session) (.success request.id
      (.array (w.accounts.listAccounts.map RemoteAccount.toJson)))

def adminCreateUser : Exchange σ :=
  match requireAdmin session with
  | .error e => fail w request (some session) e
  | .ok () =>
    match parseParams Credentials.ofJson request.params with
    | .error e => fail w request (some session) e
    | .ok params =>
      let r := w.accounts.createUser P params.username params.password d.salt d.fault
      account w request (some session) (r.1, r.2.map RemoteAccount.toJson)

def adminDeleteUser : Exchange σ :=
  match requireAdmin session with
  | .error e => fail w request (some session) e
  | .ok () =>
    match parseParams DeleteUserParams.ofJson request.params with
    | .error e => fail w request (some session) e
    | .ok params =>
      let r := w.accounts.deleteUser P params.username d.fault
      account w request (some session) (r.1, r.2.map (fun _ => .object [("deleted", .bool true)]))

def adminResetPassword : Exchange σ :=
  match requireAdmin session with
  | .error e => fail w request (some session) e
  | .ok () =>
    match parseParams ResetPasswordParams.ofJson request.params with
    | .error e => fail w request (some session) e
    | .ok params =>
      let r := w.accounts.resetPassword P params.username params.newPassword d.salt d.fault
      account w request (some session) (r.1, r.2.map (fun _ => .object
        [("passwordReset", .bool true), ("loginRequired", .bool true)]))

/-- The core's answer to a call, with the call recorded. -/
def call (origin : CallOrigin) (request : IpcRequest) : World σ × CoreCall × IpcResponse :=
  let r := H w d request
  (r.1, ⟨origin, request⟩, r.2)

def deviceCheckRequest : IpcRequest :=
  ⟨"remote-assignment-device-check", "device.list", .object []⟩

def adbDevicesRequest : IpcRequest :=
  ⟨"remote-current-adb-devices", "adb.exec",
    .object [("args", .array [.string "devices", .string "-l"])]⟩

/-- `core_has_device`: whether the core lists the device. -/
def coreHasDevice (deviceId : String) : World σ × CoreCall × Bool :=
  let (w, c, response) := call H w d .deviceCheck deviceCheckRequest
  (w, c, ((response.result.bind Value.asArray).getD []).any
    (fun device => (device.get? "deviceId").bind Value.asStr == some deviceId))

/-- Only a grant asks the core whether it knows the device. -/
def assignable (params : AssignDeviceParams) : World σ × List CoreCall × Bool :=
  if params.assigned then
    let (w, c, known) := coreHasDevice H w d params.deviceId
    (w, [c], known)
  else (w, [], true)

def adminAssignDevice : Exchange σ :=
  match requireAdmin session with
  | .error e => fail w request (some session) e
  | .ok () =>
    match parseParams AssignDeviceParams.ofJson request.params with
    | .error e => fail w request (some session) e
    | .ok params =>
      let (w, calls, known) := assignable H w d params
      if known then
        let r := w.accounts.setDeviceAccess P params.username params.deviceId params.assigned
          d.fault
        { account w request (some session) (r.1, r.2.map RemoteAccount.toJson) with
          calls := calls }
      else
        { fail w request (some session) ⟨"REMOTE_AUTH_DEVICE_NOT_CONNECTED",
            "Only a device currently known to the core can be assigned.", "remote.auth", true,
            none⟩ with
          calls := calls }

/-- `current_adb_device_ids`: the online serials of `adb devices -l`. -/
def currentAdbDeviceIds : World σ × CoreCall × List String :=
  let (w, c, response) := call H w d .adbDevices adbDevicesRequest
  (w, c, match (response.result.bind (·.get? "stdout")).bind Value.asStr with
    | none => []
    | some stdout => (lines stdout.toList).filterMap parseAdbDeviceId)

/-- The serial whose alias is looked for: `args[1]` of an ADB call whatever `args[0]` is, or the
device of a device method. -/
def requestedDevice : Option String :=
  if request.method = "adb.exec" then ((adbArgs request.params).bind (·[1]?)).bind Value.asStr
  else if request.method ∈ deviceMethods then
    (request.params.get? "deviceId").bind Value.asStr
  else none

/-- The request with its serial replaced. -/
def readdressed (current : String) : RemoteRequest :=
  if request.method = "adb.exec" then
    match adbArgs request.params with
    | none => request
    | some args =>
      { request with params := request.params.set "args" (.array (args.set 1 (.string current))) }
  else { request with params := request.params.set "deviceId" (.string current) }

/-- `resolve_request_device_alias`: a serial the session may use is replaced by the first online
one with the same identity. -/
def resolveRequestDeviceAlias : World σ × List CoreCall × RemoteRequest :=
  match requestedDevice request with
  | none => (w, [], request)
  | some requested =>
    if sessionCanAccessDevice session requested then
      let (w, c, ids) := currentAdbDeviceIds H w d
      match ids.find? (sameRemoteDeviceIdentity requested) with
      | none => (w, [c], request)
      | some current => (w, [c], readdressed request current)
    else (w, [], request)

def deviceIdOf (device : Value) : Option String := (device.get? "deviceId").bind Value.asStr

def connectionStateOf (device : Value) : Option String :=
  (device.get? "connectionState").bind Value.asStr

-- the one proof that every test for a connection state refers to
instance lawfulBEqState : LawfulBEq (Option String) := inferInstance

/-- The entry of the user's device list for one assigned device, from what the core lists and
what ADB sees. -/
def reconciledEntry (registered : List Value) (currentAdbIds : List String)
    (reconciled : List Value) (assignedId : String) : List Value :=
  let currentId := currentAdbIds.find? (sameRemoteDeviceIdentity assignedId)
  let known := registered.filter (fun device =>
    (deviceIdOf device).any (sameRemoteDeviceIdentity · assignedId))
  -- the last ready entry, else the last one
  let registeredEntry :=
    ((known.filter (fun device => connectionStateOf device == some "ready")).getLast?).or
      known.getLast?
  let displayId := (currentId.or (registeredEntry.bind deviceIdOf)).getD assignedId
  if reconciled.any (fun device => (deviceIdOf device).any (sameRemoteDeviceIdentity · displayId))
  then reconciled
  else
    let entry := registeredEntry.getD (.object [])
    let previousId := (deviceIdOf entry).getD ""
    let replaceName := match (entry.get? "name").bind Value.asStr with
      | none => true
      | some name => name == "" || name == previousId
    let online := currentId.isSome
    let entry := entry.set "deviceId" (.string displayId)
    let entry := entry.set "adbState" (.string (if online then "device" else "offline"))
    let entry :=
      if (entry.get? "connectionState").isNone ∨
          connectionStateOf entry ∈ [some "adb", some "disconnected", some "offline"] then
        entry.set "connectionState" (.string (if online then "adb" else "offline"))
      else entry
    let entry := if replaceName then entry.set "name" (.string displayId) else entry
    reconciled ++ [entry]

/-- `reconcile_remote_device_list`. -/
def reconcileRemoteDeviceList (devices : List Value) (currentAdbIds : List String) : List Value :=
  session.devices.toList.foldl (reconciledEntry devices currentAdbIds) []

/-- The call of the core a request ends in, with a user's device list reconciled. -/
def forwardTo (calls : List CoreCall) : Exchange σ :=
  let (w, c, response) := call H w d .forward ⟨request.id, request.method, request.params⟩
  let deviceList := match response.result with
    | some (.array devices) =>
      if request.method = "device.list" ∧ session.role ≠ .admin ∧ response.ok = true then
        some devices
      else none
    | _ => none
  match deviceList with
  | some devices =>
    let (w, c', ids) := currentAdbDeviceIds H w d
    ⟨w, calls ++ [c, c'], some session, ⟨response.id, response.ok,
      some (.array (reconcileRemoteDeviceList session devices ids)), response.error⟩⟩
  | none =>
    ⟨w, calls ++ [c], some session, ⟨response.id, response.ok, response.result, response.error⟩⟩

def forwardCoreRequest : Exchange σ :=
  if session.role = .admin then forwardTo H w d request session []
  else
    let (w, calls, request) := resolveRequestDeviceAlias H w d request session
    match authorizeUserCoreRequest request session with
    | .error e => { fail w request (some session) e with calls := calls }
    | .ok () => forwardTo H w d request session calls

/-- A request of an authenticated session. -/
def serve (token : String) : Exchange σ :=
  if session.passwordChangeRequired = true ∧
      request.method ∉ ["auth.me", "auth.changePassword", "auth.logout"] then
    fail w request (some session) ⟨"REMOTE_AUTH_PASSWORD_CHANGE_REQUIRED",
      "The account password must be changed before remote control is allowed.", "remote.auth",
      false, none⟩
  else if request.method = "auth.me" then me w request session
  else if request.method = "auth.logout" then logout w request session token
  else if request.method = "auth.changePassword" then changePassword P w d request session
  else if request.method = "diagnostics.report" then reportDiagnostics w request session
  else if request.method = "admin.users.list" then adminListUsers w request session
  else if request.method = "admin.users.create" then adminCreateUser P w d request session
  else if request.method = "admin.users.delete" then adminDeleteUser P w d request session
  else if request.method = "admin.users.resetPassword" then
    adminResetPassword P w d request session
  else if request.method = "admin.devices.assign" then adminAssignDevice P H w d request session
  else forwardCoreRequest H w d request session

def handleRequest : Exchange σ :=
  if request.method = "auth.login" then login P w d request
  else
    match request.sessionToken.filter (· != "") with
    | none =>
      fail w request none ⟨"REMOTE_AUTH_REQUIRED", "A valid remote session token is required.",
        "remote.auth", true, none⟩
    | some token =>
      let r := w.accounts.authenticate token
      let w := { w with accounts := r.1 }
      match r.2 with
      | .error e => fail w request none e
      | .ok session => serve P H w d request session token

/-- `handle_json_bytes`, before its response is encoded. -/
def handleJsonBytes (bytes : List UInt8) : Exchange σ :=
  match (P.parse bytes).bind RemoteRequest.ofJson with
  | none =>
    answer w none (.failure none ⟨"REMOTE_PROTOCOL_INVALID_JSON",
      "Remote request must be a valid JSON object.", "remote.protocol", false, none⟩)
  | some request => handleRequest P H w d request

end RemoteControlService

end AdbControl.Remote
