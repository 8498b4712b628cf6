import AdbControl.Remote.Service

namespace AdbControl.Remote

open Framework

structure InspectParams where
  remoteSessionToken : String

def InspectParams.ofJson (params : Value) : Option InspectParams := do
  let [remoteSessionToken] ← stringParams ["remoteSessionToken"] params | none
  some ⟨remoteSessionToken⟩

structure AdminLoginParams where
  password : String

def AdminLoginParams.ofJson (params : Value) : Option AdminLoginParams := do
  let [password] ← stringParams ["password"] params | none
  some ⟨password⟩

structure AdminTokenParams where
  sessionToken : String

def AdminTokenParams.ofJson (params : Value) : Option AdminTokenParams := do
  let [sessionToken] ← stringParams ["sessionToken"] params | none
  some ⟨sessionToken⟩

def requireRemoteUser (username : String) : Except AppError Unit :=
  if username = defaultAdminUsername then
    .error ⟨"REMOTE_AUTH_BUILTIN_USER_IMMUTABLE",
      "The built-in administrator is managed only through the password settings flow.",
      "remote.auth", false, none⟩
  else .ok ()

namespace LocalAdminService

variable (P : Platform) (m : RemoteAccountManager) (d : Draws) (request : IpcRequest)

/-- A local answer: the accounts it leaves, and the response. -/
abbrev Answer := RemoteAccountManager × IpcResponse

def parseParams {α : Type} (decode : Value → Option α) (params : Value) : Except AppError α :=
  parseParamsWith "Local remote-administration parameters are invalid." decode params

def fail (e : AppError) : Answer := (m, .failure (some request.id) e)

/-- An account operation whose result becomes the response. -/
def account (r : RemoteAccountManager × Except AppError Value) : Answer :=
  (r.1, .ofOutcome request.id r.2)

/-- Whom a token of the mobile media gateway belongs to, for users only. -/
def inspectRemoteSession : Answer :=
  match parseParams InspectParams.ofJson request.params with
  | .error e => fail m request e
  | .ok params =>
    let r := m.authenticate params.remoteSessionToken
    match r.2 with
    | .error e => fail r.1 request e
    | .ok session =>
      if session.role = .user then
        (r.1, .success request.id (.object [("username", .string session.username),
          ("role", session.role.toJson), ("devices", devicesJson session.devices),
          ("passwordChangeRequired", .bool session.passwordChangeRequired)]))
      else
        fail r.1 request ⟨"REMOTE_AUTH_ADMIN_LOCAL_ONLY",
          "The built-in administrator cannot use the remote media gateway.", "remote.auth", false,
          none⟩

def login : Answer :=
  match parseParams AdminLoginParams.ofJson request.params with
  | .error e => fail m request e
  | .ok params =>
    let r := m.login P defaultAdminUsername params.password d.token
    account request (r.1, r.2.map (fun session => .object
      [("sessionToken", .string session.token), ("username", .string session.username),
        ("role", session.role.toJson),
        ("passwordChangeRequired", .bool session.passwordChangeRequired)]))

def authenticateAdmin (params : Value) :
    RemoteAccountManager × Except AppError AuthenticatedSession :=
  match parseParams AdminTokenParams.ofJson params with
  | .error e => (m, .error e)
  | .ok params =>
    let r := m.authenticate params.sessionToken
    match r.2 with
    | .error e => (r.1, .error e)
    | .ok session =>
      if session.role ≠ .admin ∨ session.username ≠ defaultAdminUsername then
        (r.1, .error ⟨"REMOTE_AUTH_FORBIDDEN",
          "Only the built-in administrator can use the local management interface.",
          "remote.auth", false, none⟩)
      else (r.1, .ok session)

/-- The token is authenticated once more for the change. -/
def changePassword (sessionToken : String) : Answer :=
  match parseParams ChangePasswordParams.ofJson request.params with
  | .error e => fail m request e
  | .ok params =>
    let r := m.authenticate sessionToken
    match r.2 with
    | .error e => fail r.1 request e
    | .ok session =>
      let r := r.1.changeOwnPassword P session.username params.currentPassword params.newPassword
        d.salt d.fault
      account request (r.1, r.2.map (fun _ => .object
        [("passwordChanged", .bool true), ("loginRequired", .bool true)]))

/-- The administrator is not listed. -/
def listUsers : Answer :=
  (m, .success request.id (.array ((m.listAccounts.filter (fun a => a.role == .user)).map
    RemoteAccount.toJson)))

def createUser : Answer :=
  match parseParams Credentials.ofJson request.params with
  | .error e => fail m request e
  | .ok params =>
    let r := m.createUser P params.username params.password d.salt d.fault
    account request (r.1, r.2.map RemoteAccount.toJson)

def deleteUser : Answer :=
  match parseParams DeleteUserParams.ofJson request.params with
  | .error e => fail m request e
  | .ok params =>
    match requireRemoteUser params.username with
    | .error e => fail m request e
    | .ok () =>
      let r := m.deleteUser P params.username d.fault
      account request (r.1, r.2.map (fun _ => .object [("deleted", .bool true)]))

def resetPassword : Answer :=
  match parseParams ResetPasswordParams.ofJson request.params with
  | .error e => fail m request e
  | .ok params =>
    match requireRemoteUser params.username with
    | .error e => fail m request e
    | .ok () =>
      let r := m.resetPassword P params.username params.newPassword d.salt d.fault
      account request (r.1, r.2.map (fun _ => .object
        [("passwordReset", .bool true), ("loginRequired", .bool true)]))

/-- Whether a new assignment is online is left to the caller. -/
def assignDevice : Answer :=
  match parseParams AssignDeviceParams.ofJson request.params with
  | .error e => fail m request e
  | .ok params =>
    match requireRemoteUser params.username with
    | .error e => fail m request e
    | .ok () =>
      let r := m.setDeviceAccess P params.username params.deviceId params.assigned d.fault
      account request (r.1, r.2.map RemoteAccount.toJson)

/-- A request of the authenticated administrator. -/
def serve (session : AuthenticatedSession) : Answer :=
  if session.passwordChangeRequired = true ∧ request.method ∉
      ["remote.admin.me", "remote.admin.logout", "remote.admin.changePassword"] then
    fail m request ⟨"REMOTE_AUTH_PASSWORD_CHANGE_REQUIRED",
      "The administrator password must be changed before management is allowed.", "remote.auth",
      false, none⟩
  else if request.method = "remote.admin.me" then
    (m, .success request.id (.object [("username", .string session.username),
      ("role", session.role.toJson),
      ("passwordChangeRequired", .bool session.passwordChangeRequired)]))
  else if request.method = "remote.admin.logout" then
    let r := m.logout session.token
    account request (r.1, r.2.map (fun _ => .object [("loggedOut", .bool true)]))
  else if request.method = "remote.admin.changePassword" then
    changePassword P m d request session.token
  else if request.method = "remote.admin.users.list" then listUsers m request
  else if request.method = "remote.admin.users.create" then createUser P m d request
  else if request.method = "remote.admin.users.delete" then deleteUser P m d request
  else if request.method = "remote.admin.users.resetPassword" then resetPassword P m d request
  else if request.method = "remote.admin.devices.assign" then assignDevice P m d request
  else
    fail m request ⟨"IPC_METHOD_NOT_FOUND", "Unknown local remote-administration method.",
      "ipc.protocol", false, none⟩

def handleRequest : Answer :=
  if request.method = "remote.internal.session.inspect" then inspectRemoteSession m request
  else if request.method = "remote.admin.login" then login P m d request
  else
    let r := authenticateAdmin m request.params
    match r.2 with
    | .error e => fail r.1 request e
    | .ok session => serve P r.1 d request session

/-- The tokens a request's login returns. -/
def issued : List String :=
  if request.method = "remote.admin.login" then
    match parseParams AdminLoginParams.ofJson request.params with
    | .error _ => []
    | .ok params =>
      match (m.login P defaultAdminUsername params.password d.token).2 with
      | .ok session => [session.token]
      | .error _ => []
  else []

end LocalAdminService

/-- The core with its local administration: the state of everything else in it, and the tokens
that logins of the local administration have returned. -/
structure CoreState (σ : Type) where
  rest : σ
  adminTokens : List String

/-- The methods the core hands to the local administration. -/
def isLocalAdminMethod (method : String) : Bool :=
  startsWith method "remote.admin." || startsWith method "remote.internal."

/-- `CoreService::handle_request`, for any behaviour of the methods that are not the local
administration's. -/
def coreHandleRequest {σ : Type} (P : Platform) (other : σ → IpcRequest → σ × IpcResponse) :
    CoreRequestHandler (CoreState σ) := fun w d request =>
  if isLocalAdminMethod request.method then
    let r := LocalAdminService.handleRequest P w.accounts d request
    (⟨r.1, { w.core with adminTokens :=
      w.core.adminTokens ++ LocalAdminService.issued P w.accounts d request }⟩, r.2)
  else
    let r := other w.core.rest request
    (⟨w.accounts, { w.core with rest := r.1 }⟩, r.2)

/-- What reaches the process: a request over the remote endpoint, one over the local IPC, or time
passing. -/
inductive Arrival
  | remote (d : Draws) (request : RemoteRequest)
  | ipc (d : Draws) (request : IpcRequest)
  | elapse (elapsed : Nat)

/-- Both endpoints over one account manager. -/
def Arrival.step {σ : Type} (P : Platform) (other : σ → IpcRequest → σ × IpcResponse)
    (w : World (CoreState σ)) : Arrival → World (CoreState σ)
  | remote d request =>
    (RemoteControlService.handleRequest P (coreHandleRequest P other) w d request).world
  | ipc d request => (coreHandleRequest P other w d request).1
  | elapse elapsed =>
    { w with accounts := { w.accounts with now := w.accounts.now + elapsed } }

end AdbControl.Remote
