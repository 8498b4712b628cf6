import AdbControl.Remote.LocalAdmin
import AdbControl.Remote.AccountRun

namespace AdbControl.Server

open Framework Remote

/-- A remote account, as Core describes it to the server. -/
structure Account where
  username : String
  role : String
  devices : List String
  builtIn : Bool
  passwordChangeRequired : Bool
  deriving DecidableEq, Repr

/-- A browser session of the administrator, with its session at Core. -/
structure Session where
  username : String
  role : String
  coreSessionToken : String
  deriving DecidableEq, Repr

def Account.ofJson (v : Value) : Option Account := do
  let username ← (v.memberOr "username" (.string "")).asStr
  let role ← (v.memberOr "role" (.string "")).asStr
  let devices ← (v.memberOr "devices" (.array [])).asStrings
  let builtIn ← (v.memberOr "builtIn" (.bool false)).asBool
  let passwordChangeRequired ← (v.memberOr "passwordChangeRequired" (.bool false)).asBool
  some ⟨username, role, devices, builtIn, passwordChangeRequired⟩

def adminOnly : AppError :=
  ⟨"AUTH_ADMIN_ONLY", "仅内置管理员会话可以管理远程用户", "api.auth", false, none⟩

def coreUnavailable : AppError :=
  ⟨"CORE_UNAVAILABLE", "核心服务不可用", "core.ipc", true, some "请检查 Rust Core 是否已安装并可执行"⟩

def coreInvalidResponse : AppError :=
  ⟨"CORE_INVALID_RESPONSE", "核心返回了不完整的错误响应", "core.ipc", false, none⟩

def coreResultInvalid : AppError :=
  ⟨"CORE_RESULT_INVALID", "核心响应无法解析", "core.ipc", false, none⟩

/-- What happens to one call of Core: what Core draws for it, and whether it gets there. -/
structure Delivery where
  draws : Draws
  reached : Bool

/-- `coreipc.Client.Call`, for the methods of the local administration. -/
def callCore (P : Platform) (m : RemoteAccountManager) (delivery : Delivery) (method : String)
    (params : Value) : RemoteAccountManager × Except AppError Value :=
  if delivery.reached then
    let answer := LocalAdminService.handleRequest P m delivery.draws ⟨"web", method, params⟩
    (answer.1,
      if answer.2.ok then .ok (answer.2.result.getD .null)
      else .error (answer.2.error.getD coreInvalidResponse))
  else (m, .error coreUnavailable)

def requireAdmin (session : Session) : Except AppError Unit :=
  if session.username ≠ defaultAdminUsername ∨ session.role ≠ "admin" ∨
      session.coreSessionToken = "" then .error adminOnly
  else .ok ()

def adminParams (session : Session) (values : List (String × Value)) : Value :=
  .object (("sessionToken", .string session.coreSessionToken) :: values)

/-- Only accounts of users are listed, never the administrator's. -/
def listRemoteUsers (P : Platform) (m : RemoteAccountManager) (delivery : Delivery)
    (session : Session) : RemoteAccountManager × Except AppError (List Account) :=
  match requireAdmin session with
  | .error e => (m, .error e)
  | .ok () =>
    let called := callCore P m delivery "remote.admin.users.list" (adminParams session [])
    (called.1, do
      let result ← called.2
      match result.asArray.bind (·.mapM Account.ofJson) with
      | none => .error coreResultInvalid
      | some accounts => .ok (accounts.filter (fun account =>
          account.role == "user" && account.username != defaultAdminUsername)))

def setRemoteUserDevice (P : Platform) (m : RemoteAccountManager) (delivery : Delivery)
    (session : Session) (username deviceID : String) (assigned : Bool) :
    RemoteAccountManager × Except AppError Account :=
  match requireAdmin session with
  | .error e => (m, .error e)
  | .ok () =>
    let called := callCore P m delivery "remote.admin.devices.assign" (adminParams session
      [("username", .string username), ("deviceId", .string deviceID),
        ("assigned", .bool assigned)])
    (called.1, do
      let result ← called.2
      match Account.ofJson result with
      | none => .error coreResultInvalid
      | some account => .ok account)

variable {P : Platform} {m : RemoteAccountManager} {delivery : Delivery} {session : Session}

/-- An account as Core prints it, as the server reads it. -/
def accountOf (a : RemoteAccount) : Account :=
  ⟨a.username, match a.role with | .admin => "admin" | .user => "user", a.devices, a.builtIn,
    a.passwordChangeRequired⟩

theorem ofJson_toJson (a : RemoteAccount) : Account.ofJson a.toJson = some (accountOf a) := by
  obtain ⟨username, role, devices, builtIn, passwordChangeRequired⟩ := a
  have strings : (devices.map Value.string).mapM Value.asStr = some devices := by
    induction devices with
    | nil => rfl
    | cons d devices ih => simp [Value.asStr, ih]
  cases role <;>
    simp [Account.ofJson, RemoteAccount.toJson, Value.memberOr, Value.get?, List.lookup, RemoteRole.toJson,
      Value.asStr, Value.asBool, Value.asStrings, Value.asArray, strings, accountOf]

theorem authenticateAdmin_database (m : RemoteAccountManager) (params : Value) :
    (LocalAdminService.authenticateAdmin m params).1.database = m.database := by
  have kept (token : String) : (m.authenticate token).1.database = m.database := by
    simp only [RemoteAccountManager.authenticate]
    split
    · rfl
    · split <;> rfl
  unfold LocalAdminService.authenticateAdmin
  split
  · rfl
  · simp only
    split
    · exact kept _
    · split_ifs <;> exact kept _

/-- A call of the local administration that succeeds is served to an administrator who need not
change the password first, on the accounts as they were. -/
theorem callCore_ok {method : String} {params value : Value}
    (hmethod : method ∉ ["remote.internal.session.inspect", "remote.admin.login",
      "remote.admin.me", "remote.admin.logout", "remote.admin.changePassword"])
    (h : (callCore P m delivery method params).2 = .ok value) :
    ∃ (m' : RemoteAccountManager) (admin : AuthenticatedSession), m'.database = m.database ∧
      admin.passwordChangeRequired = false ∧
      (callCore P m delivery method params).1 =
        (LocalAdminService.serve P m' delivery.draws ⟨"web", method, params⟩ admin).1 ∧
      (LocalAdminService.serve P m' delivery.draws ⟨"web", method, params⟩ admin).2.ok = true ∧
      value = (LocalAdminService.serve P m' delivery.draws ⟨"web", method, params⟩ admin).2.result.getD
        .null := by
  simp only [List.mem_cons, List.not_mem_nil, or_false, not_or] at hmethod
  unfold callCore at h ⊢
  split_ifs at h ⊢ with hreached
  simp only [LocalAdminService.handleRequest, if_neg hmethod.1, if_neg hmethod.2.1] at h ⊢
  cases hauth : LocalAdminService.authenticateAdmin m params with
  | mk m' authenticated =>
    have same : m'.database = m.database := by
      have hm : m' = (LocalAdminService.authenticateAdmin m params).1 := by rw [hauth]
      rw [hm]
      exact authenticateAdmin_database m params
    rw [hauth] at h
    cases authenticated with
    | error e => simp [LocalAdminService.fail, IpcResponse.failure] at h
    | ok admin =>
      simp only at h ⊢
      split_ifs at h with hok
      cases h
      refine ⟨m', admin, same, ?_, rfl, hok, rfl⟩
      by_contra hchange
      rw [LocalAdminService.serve, if_pos ⟨by simpa using hchange, by simp [hmethod]⟩] at hok
      simp [LocalAdminService.fail, IpcResponse.failure] at hok

/-- A list of the remote users changes no account, whatever becomes of it. -/
theorem listRemoteUsers_database :
    (listRemoteUsers P m delivery session).1.database = m.database := by
  have handled (params : Value) : (LocalAdminService.handleRequest P m delivery.draws
      ⟨"web", "remote.admin.users.list", params⟩).1.database = m.database := by
    have authenticated := authenticateAdmin_database m params
    simp only [LocalAdminService.handleRequest]
    cases hauth : LocalAdminService.authenticateAdmin m params with
    | mk m' admin =>
      rw [hauth] at authenticated
      cases admin with
      | error e => exact authenticated
      | ok admin =>
        by_cases hchange : admin.passwordChangeRequired = true
        · simpa [LocalAdminService.serve, hchange, LocalAdminService.fail] using authenticated
        · simpa [LocalAdminService.serve, hchange, LocalAdminService.listUsers] using authenticated
  unfold listRemoteUsers
  cases requireAdmin session with
  | error e => rfl
  | ok u =>
    simp only [callCore]
    by_cases hreached : delivery.reached = true
    · rw [if_pos hreached]
      exact handled _
    · rw [if_neg hreached]

/-- What a list of the remote users has: every user's account. -/
theorem listRemoteUsers_ok {users : List Account}
    (h : (listRemoteUsers P m delivery session).2 = .ok users) :
    (listRemoteUsers P m delivery session).1.database = m.database ∧
    users = ((m.listAccounts.filter (fun a => a.role == .user)).map accountOf).filter
      (fun account => account.username != defaultAdminUsername) := by
  unfold listRemoteUsers at h ⊢
  cases hadmin : requireAdmin session with
  | error e => simp [hadmin] at h
  | ok u =>
    simp only [hadmin] at h ⊢
    obtain ⟨value, hvalue, hdecode⟩ := bind_eq_ok.mp h
    obtain ⟨m', admin, same, hchange, hcalled, -, hresult⟩ := callCore_ok (by decide) hvalue
    have served : (LocalAdminService.serve P m' delivery.draws
        ⟨"web", "remote.admin.users.list", adminParams session []⟩ admin) =
        LocalAdminService.listUsers m'
          ⟨"web", "remote.admin.users.list", adminParams session []⟩ := by
      simp [LocalAdminService.serve, hchange]
    rw [hcalled, served]
    refine ⟨same, ?_⟩
    have listed : value = .array ((m.listAccounts.filter (fun a => a.role == .user)).map
        RemoteAccount.toJson) := by
      rw [hresult, served]
      simp only [LocalAdminService.listUsers, RemoteAccountManager.listAccounts, same]
      rfl
    have decoded (accounts : List RemoteAccount) :
        (accounts.map RemoteAccount.toJson).mapM Account.ofJson = some (accounts.map accountOf) := by
      induction accounts with
      | nil => rfl
      | cons a accounts ih => simp [ofJson_toJson, ih]
    rw [listed] at hdecode
    simp only [Value.asArray, Option.bind_some, decoded] at hdecode
    cases hdecode
    rw [List.filter_map, List.filter_map, List.filter_filter, List.filter_filter]
    congr 1
    apply List.filter_congr
    intro a _
    obtain ⟨username, role, devices, builtIn, passwordChangeRequired⟩ := a
    cases role <;> simp [accountOf]

/-- A withdrawal that succeeds takes the device id out of the account, and changes no other. -/
theorem setRemoteUserDevice_ok {username deviceID : String} {account : Account}
    (h : (setRemoteUserDevice P m delivery session username deviceID false).2 = .ok account) :
    ∃ user, m.database.users[username]? = some user ∧
      (setRemoteUserDevice P m delivery session username deviceID false).1.database =
        (m.putUser username { user with devices := user.devices.erase deviceID }).database := by
  unfold setRemoteUserDevice at h ⊢
  cases hadmin : requireAdmin session with
  | error e => simp [hadmin] at h
  | ok u =>
    simp only [hadmin] at h ⊢
    obtain ⟨value, hvalue, -⟩ := bind_eq_ok.mp h
    obtain ⟨m', admin, same, hchange, hcalled, hok, -⟩ := callCore_ok (by decide) hvalue
    rw [hcalled]
    have params : AssignDeviceParams.ofJson (adminParams session [("username", .string username),
        ("deviceId", .string deviceID), ("assigned", .bool false)]) =
          some ⟨username, deviceID, false⟩ := by
      rfl
    have served : (LocalAdminService.serve P m' delivery.draws
        ⟨"web", "remote.admin.devices.assign", adminParams session [("username", .string username),
          ("deviceId", .string deviceID), ("assigned", .bool false)]⟩ admin) =
        LocalAdminService.assignDevice P m' delivery.draws
          ⟨"web", "remote.admin.devices.assign", adminParams session
            [("username", .string username), ("deviceId", .string deviceID),
              ("assigned", .bool false)]⟩ := by
      simp [LocalAdminService.serve, hchange]
    rw [served] at hok ⊢
    simp only [LocalAdminService.assignDevice, LocalAdminService.parseParams, parseParamsWith,
      params] at hok ⊢
    cases huser : requireRemoteUser username with
    | error e => simp [huser, LocalAdminService.fail, IpcResponse.failure] at hok
    | ok u =>
      simp only [huser, RemoteAccountManager.setDeviceAccess, LocalAdminService.account] at hok ⊢
      cases hchecks : m'.setDeviceAccessChecks username deviceID false with
      | error e => simp [hchecks, IpcResponse.ofOutcome, IpcResponse.failure, Except.map] at hok
      | ok user =>
        obtain ⟨-, old, hold, hu⟩ := RemoteAccountManager.setDeviceAccessChecks_ok.mp hchecks
        refine ⟨old, by rw [← same, hold], ?_⟩
        simp only [RemoteAccountManager.persistLocked_database]
        rw [hu]
        simp [RemoteAccountManager.putUser, same]

end AdbControl.Server
