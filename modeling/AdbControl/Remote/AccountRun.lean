import AdbControl.Remote.Auth
import AdbControl.Framework.Outcome
import AdbControl.Framework.Run

namespace AdbControl.Remote

open Framework RemoteAccountManager

/-- One operation on the manager, with the values drawn for it and where its save stops, or the
clock moving on. -/
inductive AccountOp
  | login (username password token : String)
  | logout (token : String)
  | authenticate (token : String)
  | createUser (username password : String) (salt : List UInt8) (fault : Option PersistFault)
  | deleteUser (username : String) (fault : Option PersistFault)
  | changeOwnPassword (username currentPassword newPassword : String) (salt : List UInt8)
      (fault : Option PersistFault)
  | resetPassword (username newPassword : String) (salt : List UInt8)
      (fault : Option PersistFault)
  | setDeviceAccess (username deviceId : String) (assigned : Bool) (fault : Option PersistFault)
  | advance (elapsed : Nat)

namespace AccountOp

/-- The operation's effect and whether it returned an error. -/
def perform (P : Platform) (m : RemoteAccountManager) :
    AccountOp → RemoteAccountManager × Except AppError Unit
  | login username password token =>
    let r := m.login P username password token
    (r.1, r.2.map (fun _ => ()))
  | logout token => m.logout token
  | authenticate token =>
    let r := m.authenticate token
    (r.1, r.2.map (fun _ => ()))
  | createUser username password salt fault =>
    let r := m.createUser P username password salt fault
    (r.1, r.2.map (fun _ => ()))
  | deleteUser username fault => m.deleteUser P username fault
  | changeOwnPassword username currentPassword newPassword salt fault =>
    m.changeOwnPassword P username currentPassword newPassword salt fault
  | resetPassword username newPassword salt fault =>
    m.resetPassword P username newPassword salt fault
  | setDeviceAccess username deviceId assigned fault =>
    let r := m.setDeviceAccess P username deviceId assigned fault
    (r.1, r.2.map (fun _ => ()))
  | advance elapsed => ({ m with now := m.now + elapsed }, .ok ())

def step (P : Platform) (m : RemoteAccountManager) (op : AccountOp) : RemoteAccountManager :=
  (op.perform P m).1

/-- The five operations that edit accounts and save them. -/
def IsMutation : AccountOp → Prop
  | createUser .. | deleteUser .. | changeOwnPassword .. | resetPassword .. | setDeviceAccess .. =>
    True
  | _ => False

/-- Where the save of the operation stops, if it saves and does not get through. -/
def fault : AccountOp → Option PersistFault
  | createUser _ _ _ fault | deleteUser _ fault | changeOwnPassword _ _ _ _ fault
  | resetPassword _ _ _ fault | setDeviceAccess _ _ _ fault => fault
  | _ => none

/-- The manager in memory once a mutation has passed its checks and made its edit, before it is
saved; other operations make no edit. -/
def edited (P : Platform) (m : RemoteAccountManager) :
    AccountOp → Except AppError RemoteAccountManager
  | createUser username password salt _ =>
    (m.createUserChecks P username password salt).map (m.putUser username)
  | deleteUser username _ =>
    (m.deleteUserChecks username).map (fun _ => (m.removeUser username).revokeSessions username)
  | changeOwnPassword username currentPassword newPassword salt _ =>
    (m.changeOwnPasswordChecks P username currentPassword newPassword salt).map
      (fun user => (m.putUser username user).revokeSessions username)
  | resetPassword username newPassword salt _ =>
    (m.resetPasswordChecks P username newPassword salt).map
      (fun user => (m.putUser username user).revokeSessions username)
  | setDeviceAccess username deviceId assigned _ =>
    (m.setDeviceAccessChecks username deviceId assigned).map (m.putUser username)
  | _ => .ok m

/-- The checks of a mutation all pass; the other operations check nothing before they act. -/
def Accepts (P : Platform) (m : RemoteAccountManager) : AccountOp → Prop
  | createUser username password salt _ =>
    validateUsername username = .ok () ∧ validateNewPassword password = .ok () ∧
      m.database.users[username]? = none ∧
      ∃ passwordHash, hashPassword P salt password = .ok passwordHash
  | deleteUser username _ =>
    username ≠ defaultAdminUsername ∧ ∃ user, m.database.users[username]? = some user
  | changeOwnPassword username currentPassword newPassword salt _ =>
    validateNewPassword newPassword = .ok () ∧ ∃ user passwordHash,
      m.database.users[username]? = some user ∧
      verifyPassword P currentPassword user.passwordHash = .ok () ∧
      hashPassword P salt newPassword = .ok passwordHash
  | resetPassword username newPassword salt _ =>
    validateNewPassword newPassword = .ok () ∧ ∃ user passwordHash,
      m.database.users[username]? = some user ∧
      hashPassword P salt newPassword = .ok passwordHash
  | setDeviceAccess username deviceId _ _ =>
    isBlank deviceId = false ∧ ∃ user, m.database.users[username]? = some user
  | _ => True

end AccountOp

namespace RemoteAccountManager

variable (P : Platform) (m : RemoteAccountManager) (username : String) (user : StoredAccount)
  (fault : Option PersistFault)

@[simp] theorem persistLocked_database : (m.persistLocked P fault).1.database = m.database := rfl
@[simp] theorem persistLocked_sessions : (m.persistLocked P fault).1.sessions = m.sessions := rfl
@[simp] theorem persistLocked_now : (m.persistLocked P fault).1.now = m.now := rfl
@[simp] theorem persistLocked_sessionTtl :
    (m.persistLocked P fault).1.sessionTtl = m.sessionTtl := rfl

@[simp] theorem putUser_version : (m.putUser username user).database.version = m.database.version :=
  rfl
@[simp] theorem putUser_users :
    (m.putUser username user).database.users = m.database.users.insert username user := rfl
@[simp] theorem putUser_sessions : (m.putUser username user).sessions = m.sessions := rfl
@[simp] theorem putUser_file : (m.putUser username user).file = m.file := rfl
@[simp] theorem putUser_now : (m.putUser username user).now = m.now := rfl
@[simp] theorem putUser_sessionTtl : (m.putUser username user).sessionTtl = m.sessionTtl := rfl

@[simp] theorem removeUser_version :
    (m.removeUser username).database.version = m.database.version := rfl
@[simp] theorem removeUser_users :
    (m.removeUser username).database.users = m.database.users.erase username := rfl
@[simp] theorem removeUser_sessions : (m.removeUser username).sessions = m.sessions := rfl
@[simp] theorem removeUser_file : (m.removeUser username).file = m.file := rfl
@[simp] theorem removeUser_now : (m.removeUser username).now = m.now := rfl
@[simp] theorem removeUser_sessionTtl : (m.removeUser username).sessionTtl = m.sessionTtl := rfl

@[simp] theorem revokeSessions_database : (m.revokeSessions username).database = m.database := rfl
@[simp] theorem revokeSessions_sessions : (m.revokeSessions username).sessions =
    m.sessions.retain (fun _ session => session.username != username) := rfl
@[simp] theorem revokeSessions_file : (m.revokeSessions username).file = m.file := rfl
@[simp] theorem revokeSessions_now : (m.revokeSessions username).now = m.now := rfl
@[simp] theorem revokeSessions_sessionTtl :
    (m.revokeSessions username).sessionTtl = m.sessionTtl := rfl

/-- A save reports success exactly when nothing stopped it. -/
theorem persistLocked_ok_iff : (m.persistLocked P fault).2 = .ok () ↔ fault = none := by
  unfold persistLocked persistDatabase
  cases fault with
  | none => simp
  | some f => cases f <;> simp

variable {P m username user fault}

theorem getUser_ok {username : String} {user : StoredAccount} :
    m.getUser username = .ok user ↔ m.database.users[username]? = some user := by
  unfold getUser
  cases m.database.users[username]? <;> simp

theorem createUserChecks_ok {password : String} {salt : List UInt8} :
    m.createUserChecks P username password salt = .ok user ↔
      validateUsername username = .ok () ∧ validateNewPassword password = .ok () ∧
        m.database.users[username]? = none ∧
        ∃ passwordHash, hashPassword P salt password = .ok passwordHash ∧
          user = ⟨username, passwordHash, .user, ∅, false, false⟩ := by
  unfold createUserChecks
  simp only [bind_eq_ok]
  have absent : m.database.users[username]? = none ↔ ¬m.database.users.contains username = true := by
    rw [Keyed.contains_iff_lookup, ← Option.isSome_iff_exists]
    cases m.database.users[username]? <;> simp
  rw [absent]
  constructor
  · rintro ⟨⟨⟩, hname, ⟨⟩, hpass, h⟩
    obtain ⟨hfresh, h⟩ := guard_eq_ok.mp h
    obtain ⟨hash, hh, hu⟩ := bind_eq_ok.mp h
    exact ⟨hname, hpass, hfresh, hash, hh, (Except.ok.inj hu).symm⟩
  · rintro ⟨hname, hpass, hfresh, hash, hh, rfl⟩
    exact ⟨(), hname, (), hpass, guard_eq_ok.mpr ⟨hfresh, bind_eq_ok.mpr ⟨hash, hh, rfl⟩⟩⟩

theorem deleteUserChecks_ok : m.deleteUserChecks username = .ok () ↔
    username ≠ defaultAdminUsername ∧ ∃ user, m.database.users[username]? = some user := by
  unfold deleteUserChecks
  rw [← Keyed.contains_iff_lookup]
  constructor
  · intro h
    obtain ⟨hne, h⟩ := guard_eq_ok.mp h
    refine ⟨hne, ?_⟩
    by_contra hc
    simp [hc, throw, throwThe, MonadExceptOf.throw] at h
  · rintro ⟨hne, hc⟩
    exact guard_eq_ok.mpr ⟨hne, by simp [hc]; rfl⟩

theorem changeOwnPasswordChecks_ok {currentPassword newPassword : String} {salt : List UInt8} :
    m.changeOwnPasswordChecks P username currentPassword newPassword salt = .ok user ↔
      validateNewPassword newPassword = .ok () ∧ ∃ old passwordHash,
        m.database.users[username]? = some old ∧
        verifyPassword P currentPassword old.passwordHash = .ok () ∧
        hashPassword P salt newPassword = .ok passwordHash ∧
        user = { old with passwordHash := passwordHash, passwordChangeRequired := false } := by
  unfold changeOwnPasswordChecks
  simp only [bind_eq_ok, getUser_ok]
  constructor
  · rintro ⟨⟨⟩, hpass, old, hold, ⟨⟩, hver, hash, hh, hu⟩
    exact ⟨hpass, old, hash, hold, hver, hh, (Except.ok.inj hu).symm⟩
  · rintro ⟨hpass, old, hash, hold, hver, hh, rfl⟩
    exact ⟨(), hpass, old, hold, (), hver, hash, hh, rfl⟩

theorem resetPasswordChecks_ok {newPassword : String} {salt : List UInt8} :
    m.resetPasswordChecks P username newPassword salt = .ok user ↔
      validateNewPassword newPassword = .ok () ∧ ∃ old passwordHash,
        m.database.users[username]? = some old ∧
        hashPassword P salt newPassword = .ok passwordHash ∧
        user = { old with passwordHash := passwordHash, passwordChangeRequired := true } := by
  unfold resetPasswordChecks
  simp only [bind_eq_ok, getUser_ok]
  constructor
  · rintro ⟨⟨⟩, hpass, old, hold, hash, hh, hu⟩
    exact ⟨hpass, old, hash, hold, hh, (Except.ok.inj hu).symm⟩
  · rintro ⟨hpass, old, hash, hold, hh, rfl⟩
    exact ⟨(), hpass, old, hold, hash, hh, rfl⟩

theorem setDeviceAccessChecks_ok {deviceId : String} {assigned : Bool} :
    m.setDeviceAccessChecks username deviceId assigned = .ok user ↔
      isBlank deviceId = false ∧ ∃ old, m.database.users[username]? = some old ∧
        user = { old with
          devices := if assigned then old.devices.insert deviceId
            else old.devices.erase deviceId } := by
  unfold setDeviceAccessChecks
  constructor
  · intro h
    obtain ⟨hb, h⟩ := guard_eq_ok.mp h
    obtain ⟨old, hold, hu⟩ := bind_eq_ok.mp h
    exact ⟨by simpa using hb, old, getUser_ok.mp hold, (Except.ok.inj hu).symm⟩
  · rintro ⟨hb, old, hold, rfl⟩
    exact guard_eq_ok.mpr ⟨by simp [hb], bind_eq_ok.mpr ⟨old, getUser_ok.mpr hold, rfl⟩⟩

end RemoteAccountManager

namespace AccountOp

variable {P : Platform} {m : RemoteAccountManager} {op : AccountOp}

theorem accepts_iff : op.Accepts P m ↔ ∃ m', op.edited P m = .ok m' := by
  cases op with
  | createUser username password salt fault =>
    simp only [Accepts, edited, map_eq_ok, createUserChecks_ok]
    constructor
    · intro h
      obtain ⟨hname, hpass, hfresh, hash, hh⟩ := h
      exact ⟨_, _, ⟨hname, hpass, hfresh, hash, hh, rfl⟩, rfl⟩
    · intro h
      obtain ⟨_, _, ⟨hname, hpass, hfresh, hash, hh, -⟩, -⟩ := h
      exact ⟨hname, hpass, hfresh, hash, hh⟩
  | deleteUser username fault =>
    simp only [Accepts, edited, map_eq_ok]
    constructor
    · intro h
      exact ⟨_, (), deleteUserChecks_ok.mpr h, rfl⟩
    · intro h
      obtain ⟨_, _, hchecks, -⟩ := h
      exact deleteUserChecks_ok.mp hchecks
  | changeOwnPassword username currentPassword newPassword salt fault =>
    simp only [Accepts, edited, map_eq_ok, changeOwnPasswordChecks_ok]
    constructor
    · intro h
      obtain ⟨hpass, user, hash, hu, hv, hh⟩ := h
      exact ⟨_, _, ⟨hpass, user, hash, hu, hv, hh, rfl⟩, rfl⟩
    · intro h
      obtain ⟨_, _, ⟨hpass, user, hash, hu, hv, hh, -⟩, -⟩ := h
      exact ⟨hpass, user, hash, hu, hv, hh⟩
  | resetPassword username newPassword salt fault =>
    simp only [Accepts, edited, map_eq_ok, resetPasswordChecks_ok]
    constructor
    · intro h
      obtain ⟨hpass, user, hash, hu, hh⟩ := h
      exact ⟨_, _, ⟨hpass, user, hash, hu, hh, rfl⟩, rfl⟩
    · intro h
      obtain ⟨_, _, ⟨hpass, user, hash, hu, hh, -⟩, -⟩ := h
      exact ⟨hpass, user, hash, hu, hh⟩
  | setDeviceAccess username deviceId assigned fault =>
    simp only [Accepts, edited, map_eq_ok, setDeviceAccessChecks_ok]
    constructor
    · intro h
      obtain ⟨hblank, user, hu⟩ := h
      exact ⟨_, _, ⟨hblank, user, hu, rfl⟩, rfl⟩
    · intro h
      obtain ⟨_, _, ⟨hblank, user, hu, -⟩, -⟩ := h
      exact ⟨hblank, user, hu⟩
  | login | logout | authenticate | advance => exact ⟨fun _ => ⟨m, rfl⟩, fun _ => trivial⟩

/-- An edit leaves the file to the save, and the clock alone. -/
theorem edited_frame (hop : op.IsMutation) {m' : RemoteAccountManager}
    (he : op.edited P m = .ok m') : m'.file = m.file ∧ m'.now = m.now := by
  cases op with
  | createUser | deleteUser | changeOwnPassword | resetPassword | setDeviceAccess =>
    obtain ⟨_, -, hm⟩ := map_eq_ok.mp he
    rw [← hm]
    exact ⟨rfl, rfl⟩
  | login | logout | authenticate | advance => exact hop.elim

/-- Every mutation checks, edits the memory, and only then saves: it refuses and changes
nothing, or leaves the edit in memory whatever the save does. -/
theorem perform_mutation (hop : op.IsMutation) :
    op.perform P m = match op.edited P m with
      | .error e => (m, .error e)
      | .ok m' => m'.persistLocked P op.fault := by
  cases op with
  | createUser username password salt fault =>
    simp only [perform, edited, RemoteAccountManager.createUser, AccountOp.fault]
    cases m.createUserChecks P username password salt with
    | error e => rfl
    | ok user =>
      simp only [Except.map]
      cases h : ((m.putUser username user).persistLocked P fault).2 <;> simp [Prod.ext_iff, h]
  | deleteUser username fault =>
    simp only [perform, edited, RemoteAccountManager.deleteUser, AccountOp.fault]
    cases m.deleteUserChecks username <;> rfl
  | changeOwnPassword username currentPassword newPassword salt fault =>
    simp only [perform, edited, RemoteAccountManager.changeOwnPassword, AccountOp.fault]
    cases m.changeOwnPasswordChecks P username currentPassword newPassword salt <;> rfl
  | resetPassword username newPassword salt fault =>
    simp only [perform, edited, RemoteAccountManager.resetPassword, AccountOp.fault]
    cases m.resetPasswordChecks P username newPassword salt <;> rfl
  | setDeviceAccess username deviceId assigned fault =>
    simp only [perform, edited, RemoteAccountManager.setDeviceAccess, AccountOp.fault]
    cases m.setDeviceAccessChecks username deviceId assigned with
    | error e => rfl
    | ok user =>
      simp only [Except.map]
      cases h : ((m.putUser username user).persistLocked P fault).2 <;> simp [Prod.ext_iff, h]
  | login | logout | authenticate | advance => exact hop.elim

end AccountOp

end AdbControl.Remote
