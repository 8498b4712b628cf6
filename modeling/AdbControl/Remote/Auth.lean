import AdbControl.Framework.Keyed
import AdbControl.Framework.Text
import AdbControl.Error

namespace AdbControl.Remote

open Framework

def defaultAdminUsername : String := "admin"
def defaultAdminPassword : String := "admin"
def databaseVersion : Nat := 1

/-- Eight hours; clocks and lifetimes count milliseconds. -/
def defaultSessionTtl : Nat := 8 * 60 * 60 * 1000

/-- The libraries the account manager calls: Argon2 with a salt, the parser and the verifier of
its encoded hashes, and the text layer of serde_json. -/
structure Platform where
  hash : List UInt8 → String → Option String
  parsesHash : String → Bool
  verifies : String → String → Bool
  print : Value → List UInt8
  parse : List UInt8 → Option Value

inductive RemoteRole
  | admin
  | user
  deriving DecidableEq, Repr

structure RemoteAccount where
  username : String
  role : RemoteRole
  devices : List String
  builtIn : Bool
  passwordChangeRequired : Bool
  deriving DecidableEq, Repr

structure AuthenticatedSession where
  token : String
  username : String
  role : RemoteRole
  devices : KeySet String
  passwordChangeRequired : Bool

structure StoredAccount where
  username : String
  passwordHash : String
  role : RemoteRole
  devices : KeySet String
  builtIn : Bool
  passwordChangeRequired : Bool
  deriving DecidableEq

structure AccountDatabase where
  version : Nat
  users : Keyed String StoredAccount
  deriving DecidableEq

structure SessionRecord where
  username : String
  expiresAt : Nat
  deriving DecidableEq, Repr

/-- The bytes at the account path, if the file exists. -/
abbrev AccountFile := Option (List UInt8)

/-- The manager: its locked state, and of its surroundings the account file and the monotonic
clock. -/
structure RemoteAccountManager where
  sessionTtl : Nat
  database : AccountDatabase
  sessions : Keyed String SessionRecord
  file : AccountFile
  now : Nat

/-- Where saving the database can stop. `write n` stops after `n` bytes reached the file that
opening had truncated; `sync` after all of them did. -/
inductive PersistFault
  | directory
  | serialize
  | open
  | write (written : Nat)
  | sync
  deriving DecidableEq, Repr

def storageError (code : String) : AppError :=
  ⟨code, "Failed to access the remote account database.", "remote.auth", true, none⟩

def invalidCredentials : AppError :=
  ⟨"REMOTE_AUTH_CREDENTIALS_INVALID", "Username or password is incorrect.", "remote.auth", false,
    none⟩

def userNotFound (username : String) : AppError :=
  ⟨"REMOTE_AUTH_USER_NOT_FOUND", "Remote account " ++ username ++ " does not exist.",
    "remote.auth", false, none⟩

def sessionInvalid (message : String) : AppError :=
  ⟨"REMOTE_AUTH_SESSION_INVALID", message, "remote.auth", true, none⟩

def publicAccount (user : StoredAccount) : RemoteAccount :=
  ⟨user.username, user.role, user.devices.toList, user.builtIn, user.passwordChangeRequired⟩

def sessionFromUser (token : String) (user : StoredAccount) : AuthenticatedSession :=
  ⟨token, user.username, user.role, user.devices, user.passwordChangeRequired⟩

def validateUsername (username : String) : Except AppError Unit :=
  if 3 ≤ username.utf8ByteSize ∧ username.utf8ByteSize ≤ 64 ∧
      username.toList.all (fun c => isAsciiAlphanumeric c || c == '.' || c == '_' || c == '-') then
    .ok ()
  else
    .error ⟨"REMOTE_AUTH_USERNAME_INVALID",
      "Username must be 3-64 ASCII letters, digits, dots, underscores, or hyphens.",
      "remote.auth", false, none⟩

def validateNewPassword (password : String) : Except AppError Unit :=
  if 8 ≤ password.utf8ByteSize ∧ password.utf8ByteSize ≤ 1024 then .ok ()
  else
    .error ⟨"REMOTE_AUTH_PASSWORD_INVALID", "New passwords must contain 8-1024 bytes.",
      "remote.auth", false, none⟩

def validateDatabase (database : AccountDatabase) : Except AppError Unit :=
  let invalid : Except AppError Unit :=
    .error ⟨"REMOTE_AUTH_DATABASE_INVALID",
      "Remote account database is unsupported or missing the built-in administrator.",
      "remote.auth", false, none⟩
  match database.users[defaultAdminUsername]? with
  | none => invalid
  | some admin =>
    if database.version ≠ databaseVersion ∨ admin.role ≠ .admin ∨ admin.builtIn = false then invalid
    else .ok ()

/-- `salt` is the random salt drawn for this hash. -/
def hashPassword (P : Platform) (salt : List UInt8) (password : String) :
    Except AppError String :=
  match P.hash salt password with
  | some encoded => .ok encoded
  | none =>
    .error ⟨"REMOTE_AUTH_PASSWORD_HASH_FAILED", "Failed to hash the remote account password.",
      "remote.auth", false, none⟩

def verifyPassword (P : Platform) (password encodedHash : String) : Except AppError Unit :=
  if P.parsesHash encodedHash = false then
    .error ⟨"REMOTE_AUTH_DATABASE_INVALID", "Stored remote password hash is invalid.",
      "remote.auth", false, none⟩
  else if P.verifies password encodedHash then .ok ()
  else .error invalidCredentials

namespace RemoteRole

def toJson : RemoteRole → Value
  | admin => .string "admin"
  | user => .string "user"

def ofJson : Value → Option RemoteRole
  | .string "admin" => some admin
  | .string "user" => some user
  | _ => none

end RemoteRole

namespace StoredAccount

def fieldNames : List String :=
  ["username", "passwordHash", "role", "devices", "builtIn", "passwordChangeRequired"]

def toJson (a : StoredAccount) : Value :=
  .object [("username", .string a.username), ("passwordHash", .string a.passwordHash),
    ("role", a.role.toJson), ("devices", .array (a.devices.toList.map .string)),
    ("builtIn", .bool a.builtIn), ("passwordChangeRequired", .bool a.passwordChangeRequired)]

/-- `devices`, `builtIn` and `passwordChangeRequired` default when absent. -/
def ofJson (v : Value) : Option StoredAccount := do
  let [username, passwordHash, role, devices, builtIn, passwordChangeRequired] ←
    v.structFields fieldNames | none
  let username ← username.bind Value.asStr
  let passwordHash ← passwordHash.bind Value.asStr
  let role ← role.bind RemoteRole.ofJson
  let devices ← (devices.getD (.array [])).asStrings
  let builtIn ← (builtIn.getD (.bool false)).asBool
  let passwordChangeRequired ← (passwordChangeRequired.getD (.bool false)).asBool
  some ⟨username, passwordHash, role, .ofList devices, builtIn, passwordChangeRequired⟩

end StoredAccount

namespace AccountDatabase

def toJson (d : AccountDatabase) : Value :=
  .object [("version", .number (.posInt d.version)),
    ("users", .object (d.users.toList.map (fun u => (u.1, u.2.toJson))))]

def ofJson (v : Value) : Option AccountDatabase := do
  let [version, users] ← v.structFields ["version", "users"] | none
  let version ← version.bind (Value.asUnsigned 32)
  let .object members ← users | none
  let users ← members.mapM (fun m => (StoredAccount.ofJson m.2).map (fun a => (m.1, a)))
  some ⟨version, .ofList users⟩

end AccountDatabase

/-- What the bytes at the account path load to, once they were read. -/
def loadDatabase (P : Platform) (bytes : List UInt8) : Except AppError AccountDatabase :=
  match (P.parse bytes).bind AccountDatabase.ofJson with
  | none => .error (storageError "REMOTE_AUTH_DATABASE_INVALID")
  | some database =>
    match validateDatabase database with
    | .error e => .error e
    | .ok () => .ok database

/-- Saving rewrites the file in place: what the path holds afterwards, and how it ended. -/
def persistDatabase (P : Platform) (fault : Option PersistFault) (database : AccountDatabase)
    (file : AccountFile) : AccountFile × Except AppError Unit :=
  let bytes := P.print database.toJson
  match fault with
  | none => (some bytes, .ok ())
  | some .directory => (file, .error (storageError "REMOTE_AUTH_DIRECTORY_CREATE_FAILED"))
  | some .serialize => (file, .error (storageError "REMOTE_AUTH_SERIALIZE_FAILED"))
  | some .open => (file, .error (storageError "REMOTE_AUTH_WRITE_FAILED"))
  | some (.write n) => (some (bytes.take n), .error (storageError "REMOTE_AUTH_WRITE_FAILED"))
  | some .sync => (some bytes, .error (storageError "REMOTE_AUTH_WRITE_FAILED"))

/-- The database of a first start, around the hash of the default password. -/
def initialDatabase (passwordHash : String) : AccountDatabase :=
  let admin : StoredAccount :=
    ⟨defaultAdminUsername, passwordHash, .admin, ∅, true, true⟩
  ⟨databaseVersion, (∅ : Keyed String StoredAccount).insert admin.username admin⟩

namespace RemoteAccountManager

/-- `load_or_initialize_with_session_ttl`: the manager, or an error beside the file as it was
left. `readable` is whether reading an existing file succeeds. -/
def loadOrInitialize (P : Platform) (sessionTtl now : Nat) (file : AccountFile) (readable : Bool)
    (salt : List UInt8) (fault : Option PersistFault) :
    Except (AppError × AccountFile) RemoteAccountManager :=
  match file with
  | some bytes =>
    if readable then
      match loadDatabase P bytes with
      | .error e => .error (e, file)
      | .ok database => .ok ⟨sessionTtl, database, ∅, file, now⟩
    else .error (storageError "REMOTE_AUTH_READ_FAILED", file)
  | none =>
    match hashPassword P salt defaultAdminPassword with
    | .error e => .error (e, file)
    | .ok passwordHash =>
      match persistDatabase P fault (initialDatabase passwordHash) file with
      | (file, .error e) => .error (e, file)
      | (file, .ok ()) => .ok ⟨sessionTtl, initialDatabase passwordHash, ∅, file, now⟩

/-- `users.insert` or an edit through `get_mut`. -/
def putUser (m : RemoteAccountManager) (username : String) (user : StoredAccount) :
    RemoteAccountManager :=
  { m with database := { m.database with users := m.database.users.insert username user } }

def removeUser (m : RemoteAccountManager) (username : String) : RemoteAccountManager :=
  { m with database := { m.database with users := m.database.users.erase username } }

/-- `sessions.retain(|_, session| session.username != username)`. -/
def revokeSessions (m : RemoteAccountManager) (username : String) : RemoteAccountManager :=
  { m with sessions := m.sessions.retain (fun _ session => session.username != username) }

/-- `persist_locked`. -/
def persistLocked (P : Platform) (m : RemoteAccountManager) (fault : Option PersistFault) :
    RemoteAccountManager × Except AppError Unit :=
  let saved := persistDatabase P fault m.database m.file
  ({ m with file := saved.1 }, saved.2)

/-- `token` is the random token drawn for the new session. -/
def login (P : Platform) (m : RemoteAccountManager) (username password token : String) :
    RemoteAccountManager × Except AppError AuthenticatedSession :=
  match m.database.users[username]? with
  | none => (m, .error invalidCredentials)
  | some user =>
    match verifyPassword P password user.passwordHash with
    | .error e => (m, .error e)
    | .ok () =>
      ({ m with sessions := m.sessions.insert token ⟨username, m.now + m.sessionTtl⟩ },
        .ok (sessionFromUser token user))

/-- Expired sessions are dropped before the token is looked up. -/
def authenticate (m : RemoteAccountManager) (token : String) :
    RemoteAccountManager × Except AppError AuthenticatedSession :=
  let m := { m with sessions := m.sessions.retain (fun _ session => m.now < session.expiresAt) }
  match m.sessions[token]? with
  | none => (m, .error (sessionInvalid "Remote session is missing, expired, or revoked."))
  | some record =>
    match m.database.users[record.username]? with
    | none => (m, .error (sessionInvalid "Remote session account no longer exists."))
    | some user => (m, .ok (sessionFromUser token user))

def logout (m : RemoteAccountManager) (token : String) : RemoteAccountManager × Except AppError Unit :=
  ({ m with sessions := m.sessions.erase token }, .ok ())

def listAccounts (m : RemoteAccountManager) : List RemoteAccount :=
  m.database.users.values.map publicAccount

/-- What `create_user` checks before it edits anything: the account to insert. -/
def createUserChecks (P : Platform) (m : RemoteAccountManager) (username password : String)
    (salt : List UInt8) : Except AppError StoredAccount := do
  validateUsername username
  validateNewPassword password
  if m.database.users.contains username then
    throw ⟨"REMOTE_AUTH_USER_EXISTS", "A remote account with this username already exists.",
      "remote.auth", false, none⟩
  let passwordHash ← hashPassword P salt password
  return ⟨username, passwordHash, .user, ∅, false, false⟩

def createUser (P : Platform) (m : RemoteAccountManager) (username password : String)
    (salt : List UInt8) (fault : Option PersistFault) :
    RemoteAccountManager × Except AppError RemoteAccount :=
  match createUserChecks P m username password salt with
  | .error e => (m, .error e)
  | .ok user =>
    let saved := (m.putUser username user).persistLocked P fault
    (saved.1, saved.2.map (fun _ => publicAccount user))

/-- What `delete_user` checks; the lock is taken between the two. -/
def deleteUserChecks (m : RemoteAccountManager) (username : String) : Except AppError Unit := do
  if username = defaultAdminUsername then
    throw ⟨"REMOTE_AUTH_BUILTIN_USER_IMMUTABLE",
      "The built-in administrator account cannot be deleted or renamed.", "remote.auth", false,
      none⟩
  if m.database.users.contains username then return () else throw (userNotFound username)

def deleteUser (P : Platform) (m : RemoteAccountManager) (username : String)
    (fault : Option PersistFault) : RemoteAccountManager × Except AppError Unit :=
  match deleteUserChecks m username with
  | .error e => (m, .error e)
  | .ok () => ((m.removeUser username).revokeSessions username).persistLocked P fault

/-- The lookup that the three edits of an existing account share. -/
def getUser (m : RemoteAccountManager) (username : String) : Except AppError StoredAccount :=
  match m.database.users[username]? with
  | some user => .ok user
  | none => .error (userNotFound username)

/-- What `change_own_password` checks: the account with its new hash. -/
def changeOwnPasswordChecks (P : Platform) (m : RemoteAccountManager)
    (username currentPassword newPassword : String) (salt : List UInt8) :
    Except AppError StoredAccount := do
  validateNewPassword newPassword
  let user ← m.getUser username
  verifyPassword P currentPassword user.passwordHash
  let passwordHash ← hashPassword P salt newPassword
  return { user with passwordHash := passwordHash, passwordChangeRequired := false }

def changeOwnPassword (P : Platform) (m : RemoteAccountManager)
    (username currentPassword newPassword : String) (salt : List UInt8)
    (fault : Option PersistFault) : RemoteAccountManager × Except AppError Unit :=
  match changeOwnPasswordChecks P m username currentPassword newPassword salt with
  | .error e => (m, .error e)
  | .ok user => ((m.putUser username user).revokeSessions username).persistLocked P fault

/-- What `reset_password` checks: the account with its new hash. -/
def resetPasswordChecks (P : Platform) (m : RemoteAccountManager) (username newPassword : String)
    (salt : List UInt8) : Except AppError StoredAccount := do
  validateNewPassword newPassword
  let user ← m.getUser username
  let passwordHash ← hashPassword P salt newPassword
  return { user with passwordHash := passwordHash, passwordChangeRequired := true }

def resetPassword (P : Platform) (m : RemoteAccountManager) (username newPassword : String)
    (salt : List UInt8) (fault : Option PersistFault) :
    RemoteAccountManager × Except AppError Unit :=
  match resetPasswordChecks P m username newPassword salt with
  | .error e => (m, .error e)
  | .ok user => ((m.putUser username user).revokeSessions username).persistLocked P fault

/-- What `set_device_access` checks: the account with its device set edited. -/
def setDeviceAccessChecks (m : RemoteAccountManager) (username deviceId : String)
    (assigned : Bool) : Except AppError StoredAccount := do
  if isBlank deviceId then
    throw ⟨"REMOTE_AUTH_DEVICE_ID_INVALID", "deviceId must not be empty.", "remote.auth", false,
      none⟩
  let user ← m.getUser username
  return { user with
    devices := if assigned then user.devices.insert deviceId else user.devices.erase deviceId }

def setDeviceAccess (P : Platform) (m : RemoteAccountManager) (username deviceId : String)
    (assigned : Bool) (fault : Option PersistFault) :
    RemoteAccountManager × Except AppError RemoteAccount :=
  match setDeviceAccessChecks m username deviceId assigned with
  | .error e => (m, .error e)
  | .ok user =>
    let saved := (m.putUser username user).persistLocked P fault
    (saved.1, saved.2.map (fun _ => publicAccount user))

end RemoteAccountManager

end AdbControl.Remote
