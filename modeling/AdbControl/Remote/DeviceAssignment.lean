import AdbControl.Remote.Access
import AdbControl.Remote.AccountSessions

namespace AdbControl.Remote

open Framework RemoteAccountManager

/-- The account was granted a device of this identity. -/
def AccountOp.Regrants (username deviceId : String) : AccountOp → Prop
  | .setDeviceAccess u e assigned _ =>
    u = username ∧ assigned = true ∧ sameRemoteDeviceIdentity e deviceId = true
  | _ => False

/-- A session the manager hands out: for an open token, or at a login. -/
def Serves (P : Platform) (m : RemoteAccountManager) (session : AuthenticatedSession) : Prop :=
  (∃ token, (m.authenticate token).2 = .ok session) ∨
    ∃ username password token, (m.login P username password token).2 = .ok session

/-- No device of the account has this identity. -/
def Cleared (username deviceId : String) (m : RemoteAccountManager) : Prop :=
  ∀ user, m.database.users[username]? = some user → ∀ id ∈ user.devices,
    sameRemoteDeviceIdentity id deviceId = false

/-- The device has no other name among the devices of the account. -/
def SoleName (username deviceId : String) (m : RemoteAccountManager) : Prop :=
  ∀ user, m.database.users[username]? = some user → ∀ id ∈ user.devices,
    sameRemoteDeviceIdentity id deviceId = true → id = deviceId

/-- From here on no session of the account reaches a device of this identity, until one is
granted again. -/
def Withdrawn (P : Platform) (m : RemoteAccountManager) (username deviceId : String) : Prop :=
  ∀ (ops : List AccountOp) (session : AuthenticatedSession) (e : String),
    Along (AccountOp.step P) (fun _ op => ¬op.Regrants username deviceId) m ops →
    Serves P (run (AccountOp.step P) m ops) session → session.username = username →
    sameRemoteDeviceIdentity e deviceId = true → sessionCanAccessDevice session e = false

/-- Some acceptable password can be hashed, and verifies against its hash. -/
def Platform.CanHash (P : Platform) : Prop :=
  ∃ password salt encoded, validateNewPassword password = .ok () ∧
    P.hash salt password = some encoded ∧ P.parsesHash encoded = true ∧
    P.verifies password encoded = true

namespace AccountOp

variable {P : Platform} {m : RemoteAccountManager} {op : AccountOp}

/-- What one operation does to the devices of an account: nothing, or the account is new, or
its devices were edited. -/
theorem account_devices_step {username : String} {a : StoredAccount}
    (h : (op.step P m).database.users[username]? = some a) :
    a.devices = ∅ ∨ ∃ old, m.database.users[username]? = some old ∧
      (a.devices = old.devices ∨ ∃ deviceId assigned fault,
        op = .setDeviceAccess username deviceId assigned fault ∧
        a.devices = if assigned then old.devices.insert deviceId
          else old.devices.erase deviceId) := by
  have same (h : m.database.users[username]? = some a) : a.devices = ∅ ∨
      ∃ old, m.database.users[username]? = some old ∧
        (a.devices = old.devices ∨ ∃ deviceId assigned fault,
          op = .setDeviceAccess username deviceId assigned fault ∧
          a.devices = if assigned then old.devices.insert deviceId
            else old.devices.erase deviceId) :=
    Or.inr ⟨a, h, Or.inl rfl⟩
  rw [step_database] at h
  cases he : op.edited P m with
  | error e =>
    rw [he] at h
    exact same h
  | ok m' =>
    simp only [he] at h
    -- a written account is the one written, or another one that stays
    have put {key : String} {user : StoredAccount}
        (h : (m.putUser key user).database.users[username]? = some a) :
        username = key ∧ user = a ∨ m.database.users[username]? = some a := by
      rw [putUser_users, Keyed.lookup_insert] at h
      split_ifs at h with hk
      · exact Or.inl ⟨hk, Option.some.inj h⟩
      · exact Or.inr h
    cases op with
    | createUser key password salt fault =>
      obtain ⟨user, hchecks, hm⟩ := map_eq_ok.mp he
      subst hm
      rcases put h with ⟨-, hu⟩ | h
      · obtain ⟨-, -, -, hash, -, hnew⟩ := createUserChecks_ok.mp hchecks
        left
        rw [← hu, hnew]
      · exact same h
    | deleteUser key fault =>
      obtain ⟨_, -, hm⟩ := map_eq_ok.mp he
      subst hm
      rw [revokeSessions_database, removeUser_users, Keyed.lookup_erase] at h
      split_ifs at h
      exact same h
    | changeOwnPassword key currentPassword newPassword salt fault =>
      obtain ⟨user, hchecks, hm⟩ := map_eq_ok.mp he
      subst hm
      rcases put h with ⟨hk, hu⟩ | h
      · obtain ⟨-, old, hash, hold, -, -, hnew⟩ := changeOwnPasswordChecks_ok.mp hchecks
        refine Or.inr ⟨old, by rw [hk, hold], Or.inl ?_⟩
        rw [← hu, hnew]
      · exact same h
    | resetPassword key newPassword salt fault =>
      obtain ⟨user, hchecks, hm⟩ := map_eq_ok.mp he
      subst hm
      rcases put h with ⟨hk, hu⟩ | h
      · obtain ⟨-, old, hash, hold, -, hnew⟩ := resetPasswordChecks_ok.mp hchecks
        refine Or.inr ⟨old, by rw [hk, hold], Or.inl ?_⟩
        rw [← hu, hnew]
      · exact same h
    | setDeviceAccess key deviceId assigned fault =>
      obtain ⟨user, hchecks, hm⟩ := map_eq_ok.mp he
      subst hm
      rcases put h with ⟨hk, hu⟩ | h
      · obtain ⟨-, old, hold, hnew⟩ := setDeviceAccessChecks_ok.mp hchecks
        refine Or.inr ⟨old, by rw [hk, hold], Or.inr ⟨deviceId, assigned, fault, by rw [hk], ?_⟩⟩
        rw [← hu, hnew]
      · exact same h
    | login | logout | authenticate | advance =>
      cases he
      exact same h

/-- Only a new grant brings a device of a cleared identity back. -/
theorem cleared_step {username deviceId : String} (hclear : Cleared username deviceId m)
    (hop : ¬op.Regrants username deviceId) : Cleared username deviceId (op.step P m) := by
  intro a ha id hid
  rcases account_devices_step ha with hempty | ⟨old, hold, hsame | ⟨e, assigned, fault, he, hd⟩⟩
  · rw [hempty] at hid
    simp at hid
  · exact hclear old hold id (hsame ▸ hid)
  · subst he
    rw [hd] at hid
    cases assigned with
    | true =>
      rcases (KeySet.mem_insert_iff _ _ _).mp hid with rfl | hid
      · cases hsame : sameRemoteDeviceIdentity id deviceId with
        | false => rfl
        | true => exact absurd ⟨rfl, rfl, hsame⟩ hop
      · exact hclear old hold id hid
    | false => exact hclear old hold id ((KeySet.mem_erase_iff _ _ _).mp hid).2

end AccountOp

/-- A session that is handed out shows the account of its name. -/
theorem serves_account {P : Platform} {m : RemoteAccountManager} {session : AuthenticatedSession}
    (hm : DatabaseInvariant m.database) (h : Serves P m session) :
    ∃ user, m.database.users[session.username]? = some user ∧ session.devices = user.devices := by
  have named {key : String} {user : StoredAccount} {token : String}
      (hu : m.database.users[key]? = some user) (hs : session = sessionFromUser token user) :
      ∃ user, m.database.users[session.username]? = some user ∧
        session.devices = user.devices := by
    have hname : user.username = key := (hm.fits key user hu).username
    refine ⟨user, ?_, by rw [hs]; rfl⟩
    rw [hs, show (sessionFromUser token user).username = user.username from rfl, hname, hu]
  rcases h with ⟨token, h⟩ | ⟨username, password, token, h⟩
  · obtain ⟨record, user, -, -, hu, hs⟩ := authenticate_ok.mp h
    exact named hu hs
  · obtain ⟨user, hu, -, hs⟩ := login_ok.mp h
    exact named hu hs

/-- Once the identity is cleared, sessions reach no device of it until it is granted again. -/
theorem withdrawn_of_cleared {P : Platform} {m : RemoteAccountManager} {username deviceId : String}
    (hm : DatabaseInvariant m.database) (hclear : Cleared username deviceId m) :
    Withdrawn P m username deviceId := by
  intro ops session e hquiet hserves hname hsame
  have hrun : Cleared username deviceId (run (AccountOp.step P) m ops) :=
    run_invariant (Cleared username deviceId)
      (fun _ _ hclear hop => AccountOp.cleared_step hclear hop) hclear hquiet
  obtain ⟨user, hu, hdevices⟩ := serves_account (accountRun_invariant P ops hm) hserves
  rw [hname] at hu
  rw [← Bool.not_eq_true, sessionCanAccessDevice_iff]
  intro haccess
  obtain ⟨id, hid, hide⟩ := haccess
  rw [hdevices] at hid
  have hidentity := sameRemoteDeviceIdentity_trans hide hsame
  rw [hrun user hu id hid] at hidentity
  cases hidentity

/-- A device left under another name can still be reached, after a new login. -/
theorem not_withdrawn_of_alias {P : Platform} {m : RemoteAccountManager}
    {username deviceId id : String} {user : StoredAccount} (hP : P.CanHash)
    (hm : DatabaseInvariant m.database) (hu : m.database.users[username]? = some user)
    (hid : id ∈ user.devices) (hsame : sameRemoteDeviceIdentity id deviceId = true) :
    ¬Withdrawn P m username deviceId := by
  intro h
  obtain ⟨password, salt, encoded, hvalid, hhash, hparses, hverifies⟩ := hP
  have hashed : hashPassword P salt password = .ok encoded := by rw [hashPassword, hhash]
  have checks := resetPasswordChecks_ok.mpr ⟨hvalid, user, encoded, hu, hashed, rfl⟩
  have account : ((AccountOp.resetPassword username password salt none).step P
      m).database.users[username]? =
        some { user with passwordHash := encoded, passwordChangeRequired := true } := by
    rw [AccountOp.step_database]
    simp only [AccountOp.edited, checks, Except.map]
    simp
  have verified : verifyPassword P password encoded = .ok () := by
    rw [verifyPassword, if_neg (by simp [hparses]), if_pos hverifies]
  have served : (((AccountOp.resetPassword username password salt none).step P m).login P username
      password "").2 = .ok (sessionFromUser ""
        { user with passwordHash := encoded, passwordChangeRequired := true }) :=
    login_ok.mpr ⟨_, account, verified, rfl⟩
  have hname : user.username = username := (hm.fits username user hu).username
  have denied := h [.resetPassword username password salt none] _ deviceId
    ⟨fun regrants => regrants, trivial⟩ (Or.inr ⟨username, password, "", served⟩) hname
    (sameRemoteDeviceIdentity_refl deviceId)
  rw [← Bool.not_eq_true, sessionCanAccessDevice_iff] at denied
  exact denied ⟨id, hid, hsame⟩

/-- Withdrawing a device takes effect, for every later session and whatever happens until it is
granted again, exactly when the account held it under no other name. -/
theorem unassignment_effective_iff {P : Platform} {m : RemoteAccountManager}
    {username deviceId : String} {fault : Option PersistFault}
    (hm : ReachableDatabase P m.database) (hP : P.CanHash)
    (hok : ((AccountOp.setDeviceAccess username deviceId false fault).perform P m).2 = .ok ()) :
    Withdrawn P ((AccountOp.setDeviceAccess username deviceId false fault).step P m) username
        deviceId ↔ SoleName username deviceId m := by
  have keep : DatabaseInvariant ((AccountOp.setDeviceAccess username deviceId false fault).step P
      m).database := AccountOp.step_invariant hm.invariant
  -- the call succeeded, so the account is there and its set lost the one string
  have hop : (AccountOp.setDeviceAccess username deviceId false fault).IsMutation := trivial
  rw [AccountOp.perform_mutation hop] at hok
  cases he : (AccountOp.setDeviceAccess username deviceId false fault).edited P m with
  | error e =>
    rw [he] at hok
    cases hok
  | ok m' =>
    obtain ⟨a, hchecks, hm'⟩ := map_eq_ok.mp he
    obtain ⟨-, old, hold, hnew⟩ := setDeviceAccessChecks_ok.mp hchecks
    have account : ((AccountOp.setDeviceAccess username deviceId false fault).step P
        m).database.users[username]? = some a := by
      rw [AccountOp.step_database]
      simp only [he, ← hm']
      simp
    have devices : a.devices = old.devices.erase deviceId := by rw [hnew]; rfl
    constructor
    · intro h user hu id hid hsame
      rw [hold] at hu
      cases hu
      by_contra hne
      have hkept : id ∈ a.devices := by
        rw [devices]
        exact (KeySet.mem_erase_iff _ _ _).mpr ⟨hne, hid⟩
      exact not_withdrawn_of_alias hP keep account hkept hsame h
    · intro h
      apply withdrawn_of_cleared keep
      intro user hu id hid
      rw [account] at hu
      cases hu
      rw [devices] at hid
      obtain ⟨hne, hid⟩ := (KeySet.mem_erase_iff _ _ _).mp hid
      rw [← Bool.not_eq_true]
      intro hsame
      exact hne (h old hold id hid hsame)

def handset : String := "adb-R3CR70SJHHR-2VyQ5v._adb-tls-connect._tcp"

/-- The name mDNS gives the handset when its own is taken. -/
def handsetCollision : String := "adb-R3CR70SJHHR-2VyQ5v (2)._adb-tls-connect._tcp"

/-- A fresh start, and an account that is granted devices. -/
def granted (devices : List String) : RemoteAccountManager :=
  run (AccountOp.step freshPlatform) freshManager
    (.createUser "alice" "wonderland" [] none ::
      devices.map (fun id => .setDeviceAccess "alice" id true none))

theorem granted_reachable (devices : List String) :
    ReachableDatabase freshPlatform (granted devices).database :=
  ReachableDatabase.run _ (.initial [] _ rfl)

theorem unassignment_effective_handset :
    Withdrawn freshPlatform ((AccountOp.setDeviceAccess "alice" handset false none).step
      freshPlatform (granted [handset])) "alice" handset := by
  have hashes : freshPlatform.CanHash := ⟨"wonderland", [], _, rfl, rfl, by decide, by decide⟩
  apply (unassignment_effective_iff (granted_reachable [handset]) hashes rfl).mpr
  intro user hu id hid hsame
  have account : (granted [handset]).database.users["alice"]? =
      some ⟨"alice", "$argon2id$wonderland", .user, (∅ : KeySet String).insert handset, false,
        false⟩ := rfl
  rw [account] at hu
  cases hu
  rcases (KeySet.mem_insert_iff _ _ _).mp hid with hid | hid
  · exact hid
  · simp at hid

/-- A handset granted under two names and withdrawn under one is still reached. -/
theorem unassignment_keeps_collision_name :
    ReachableDatabase freshPlatform (granted [handset, handsetCollision]).database ∧
    ((AccountOp.setDeviceAccess "alice" handset false none).perform freshPlatform
      (granted [handset, handsetCollision])).2 = .ok () ∧
    ¬Withdrawn freshPlatform ((AccountOp.setDeviceAccess "alice" handset false none).step
      freshPlatform (granted [handset, handsetCollision])) "alice" handset := by
  refine ⟨granted_reachable _, rfl, ?_⟩
  intro h
  have denied := h [] _ handset trivial (Or.inr ⟨"alice", "wonderland", "t1", rfl⟩) rfl
    (sameRemoteDeviceIdentity_refl handset)
  revert denied
  decide

end AdbControl.Remote
