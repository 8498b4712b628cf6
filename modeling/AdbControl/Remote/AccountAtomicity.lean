import AdbControl.Remote.AccountDatabase

namespace AdbControl.Remote

open Framework RemoteAccountManager

/-- The database the account file loads to, if it does. -/
def AccountFile.loads (P : Platform) (file : AccountFile) : Option AccountDatabase :=
  file.bind (fun bytes => (loadDatabase P bytes).toOption)

/-- The text layer parses no proper part of what it printed for this database. -/
def Platform.RejectsTorn (P : Platform) (d : AccountDatabase) : Prop :=
  ∀ n, n < (P.print d.toJson).length → P.parse ((P.print d.toJson).take n) = none

theorem Platform.knowing_rejectsTorn (d : AccountDatabase) :
    (Platform.knowing [d.toJson]).RejectsTorn d := by
  intro n hn
  have hlen : (d.toJson.prettyBytes.take n).length = n := List.length_take_of_le (Nat.le_of_lt hn)
  have other : d.toJson.prettyBytes ≠ d.toJson.prettyBytes.take n := by
    intro he
    have hle : d.toJson.prettyBytes.length = n := by rw [he, hlen]
    have hn' : n < d.toJson.prettyBytes.length := hn
    omega
  simp [Platform.knowing, other]

/-- What a call that failed may not have touched. -/
structure Untouched (P : Platform) (m m' : RemoteAccountManager) : Prop where
  accounts : m'.database = m.database
  sessions : m'.sessions = m.sessions
  file : ∀ d, m.file.loads P = some d → m'.file.loads P = some d

/-- No session of this account is open. -/
def NoSession (m : RemoteAccountManager) (username : String) : Prop :=
  ∀ (token : String) (session : SessionRecord), m.sessions[token]? = some session →
    session.username ≠ username

theorem retain_others_eq_self {m : RemoteAccountManager} {username : String} :
    m.sessions.retain (fun _ session => session.username != username) = m.sessions ↔
      NoSession m username := by
  rw [Keyed.retain_eq_self]
  simp [NoSession]

theorem putUser_eq_self {m : RemoteAccountManager} {username : String} {user : StoredAccount} :
    (m.putUser username user).database = m.database ↔
      m.database.users[username]? = some user := by
  rw [← Keyed.insert_eq_self]
  constructor
  · intro h
    have hu := congrArg AccountDatabase.users h
    rwa [putUser_users] at hu
  · intro h
    show { m.database with users := m.database.users.insert username user } = m.database
    rw [h]

namespace AccountOp

/-- The edit of the mutation would change neither an account nor a session: a grant of a device
already held, a withdrawal of one that is not, or a password written over by the same record
while no session of the account is open. -/
def Idle (P : Platform) (m : RemoteAccountManager) : AccountOp → Prop
  | createUser .. | deleteUser .. => False
  | changeOwnPassword username _ newPassword salt _ =>
    (∃ user, m.database.users[username]? = some user ∧
      hashPassword P salt newPassword = .ok user.passwordHash ∧
      user.passwordChangeRequired = false) ∧ NoSession m username
  | resetPassword username newPassword salt _ =>
    (∃ user, m.database.users[username]? = some user ∧
      hashPassword P salt newPassword = .ok user.passwordHash ∧
      user.passwordChangeRequired = true) ∧ NoSession m username
  | setDeviceAccess username deviceId assigned _ =>
    ∃ user, m.database.users[username]? = some user ∧ (deviceId ∈ user.devices ↔ assigned = true)
  | _ => True

/-- The failed save leaves the file loading as it did: it stops before the file is opened, or
nothing loadable was there, or all bytes got there and the file held the accounts in memory. -/
def SparesFile (P : Platform) (m : RemoteAccountManager) : Option PersistFault → Prop
  | none | some .directory | some .serialize | some .open => True
  | some (.write n) =>
    m.file.loads P = none ∨
      (P.print m.database.toJson).length ≤ n ∧ m.file.loads P = some m.database
  | some .sync => m.file.loads P = none ∨ m.file.loads P = some m.database

/-- When a failing mutation touches nothing: its checks refuse it, or its edit is idle and the
save spares the file. -/
def TouchesNothing (P : Platform) (m : RemoteAccountManager) (op : AccountOp) : Prop :=
  ¬op.Accepts P m ∨ op.Idle P m ∧ SparesFile P m op.fault

variable {P : Platform} {m m' : RemoteAccountManager} {op : AccountOp}

/-- A password is written over by the same record while no session is open. -/
theorem password_edit_eq_self {user : StoredAccount} {username hash : String} {required : Bool}
    (hu : m.database.users[username]? = some user) :
    let edited := (m.putUser username { user with
      passwordHash := hash, passwordChangeRequired := required }).revokeSessions username
    edited.database = m.database ∧ edited.sessions = m.sessions ↔
      (hash = user.passwordHash ∧ user.passwordChangeRequired = required) ∧
        NoSession m username := by
  intro edited
  refine and_congr ?_ retain_others_eq_self
  rw [show edited.database = (m.putUser username { user with
      passwordHash := hash, passwordChangeRequired := required }).database from rfl,
    putUser_eq_self, hu, Option.some.injEq]
  constructor
  · intro h
    have hhash := congrArg StoredAccount.passwordHash h
    have hreq := congrArg StoredAccount.passwordChangeRequired h
    exact ⟨hhash.symm, hreq⟩
  · intro h
    rw [h.1, ← h.2]

/-- An accepted edit leaves memory as it was exactly when it is idle. -/
theorem edited_eq_iff_idle (hop : op.IsMutation) (he : op.edited P m = .ok m') :
    m'.database = m.database ∧ m'.sessions = m.sessions ↔ op.Idle P m := by
  cases op with
  | createUser username password salt fault =>
    obtain ⟨user, hchecks, hm⟩ := map_eq_ok.mp he
    have hfresh := (createUserChecks_ok.mp hchecks).2.2.1
    subst hm
    rw [putUser_eq_self, hfresh]
    simp [Idle]
  | deleteUser username fault =>
    obtain ⟨_, hchecks, hm⟩ := map_eq_ok.mp he
    obtain ⟨-, user, hu⟩ := deleteUserChecks_ok.mp hchecks
    subst hm
    simp only [Idle, iff_false]
    intro h
    have hgone := congrArg (fun d => d.users[username]?) h.1
    simp [hu] at hgone
  | changeOwnPassword username currentPassword newPassword salt fault =>
    obtain ⟨user, hchecks, hm⟩ := map_eq_ok.mp he
    obtain ⟨-, old, hash, hold, -, hh, hu⟩ := changeOwnPasswordChecks_ok.mp hchecks
    subst hm hu
    refine (password_edit_eq_self hold).trans ?_
    simp [Idle, hold, hh]
  | resetPassword username newPassword salt fault =>
    obtain ⟨user, hchecks, hm⟩ := map_eq_ok.mp he
    obtain ⟨-, old, hash, hold, hh, hu⟩ := resetPasswordChecks_ok.mp hchecks
    subst hm hu
    refine (password_edit_eq_self hold).trans ?_
    simp [Idle, hold, hh]
  | setDeviceAccess username deviceId assigned fault =>
    obtain ⟨user, hchecks, hm⟩ := map_eq_ok.mp he
    obtain ⟨-, old, hold, hu⟩ := setDeviceAccessChecks_ok.mp hchecks
    subst hm hu
    rw [putUser_eq_self, putUser_sessions, hold, Option.some.injEq]
    have same (devices : KeySet String) :
        old = { old with devices := devices } ↔ devices = old.devices := by
      constructor
      · intro h
        exact (congrArg StoredAccount.devices h).symm
      · intro h
        rw [h]
    cases assigned with
    | true => simp [Idle, hold, same, KeySet.insert_eq_self]
    | false => simp [Idle, hold, same, KeySet.erase_eq_self]
  | login | logout | authenticate | advance => exact hop.elim

end AccountOp

/-- What a save leaves of the file when the accounts it saves are those already in memory. -/
theorem persistLocked_spares_iff {P : Platform} {m m' : RemoteAccountManager}
    {fault : Option PersistFault} {e : AppError} (hm : DatabaseInvariant m.database)
    (text : P.ReadsBack m.database) (torn : P.RejectsTorn m.database)
    (hdb : m'.database = m.database) (hfile : m'.file = m.file)
    (herr : (m'.persistLocked P fault).2 = .error e) :
    (∀ d, m.file.loads P = some d → (m'.persistLocked P fault).1.file.loads P = some d) ↔
      AccountOp.SparesFile P m fault := by
  -- a file of complete bytes loads to the accounts in memory
  have whole : AccountFile.loads P (some (P.print m.database.toJson)) = some m.database := by
    simp [AccountFile.loads, loadDatabase_print hm text, Except.toOption]
  have kept (file : AccountFile) (hf : file.loads P = some m.database) :
      (∀ d, m.file.loads P = some d → file.loads P = some d) ↔
        m.file.loads P = none ∨ m.file.loads P = some m.database := by
    rw [hf]
    cases m.file.loads P with
    | none => simp
    | some d => simp [eq_comm (a := d)]
  cases fault with
  | none => cases herr
  | some f =>
    cases f with
    | directory | serialize | «open» =>
      simp [persistLocked, persistDatabase, AccountOp.SparesFile, hfile]
    | sync =>
      simp only [persistLocked, persistDatabase, hdb, AccountOp.SparesFile]
      exact kept _ whole
    | write n =>
      simp only [persistLocked, persistDatabase, hdb, AccountOp.SparesFile]
      by_cases hn : n < (P.print m.database.toJson).length
      · -- a torn file loads to nothing
        have broken : AccountFile.loads P (some ((P.print m.database.toJson).take n)) = none := by
          simp [AccountFile.loads, loadDatabase, torn n hn, Except.toOption]
        rw [broken]
        have hle : ¬(P.print m.database.toJson).length ≤ n := by omega
        cases m.file.loads P <;> simp [hle]
      · have hle : (P.print m.database.toJson).length ≤ n := by omega
        rw [List.take_of_length_le hle]
        simpa [hle] using kept _ whole

/-- A mutation that returns an error has touched nothing exactly when its checks refused it, or
its edit was idle and the failed save spared the file. -/
theorem failed_mutation_untouched_iff {P : Platform} {m : RemoteAccountManager} {op : AccountOp}
    {e : AppError} (hm : ReachableDatabase P m.database) (text : P.ReadsBack m.database)
    (torn : P.RejectsTorn m.database) (hop : op.IsMutation)
    (herr : (op.perform P m).2 = .error e) :
    Untouched P m (op.step P m) ↔ op.TouchesNothing P m := by
  unfold AccountOp.TouchesNothing AccountOp.step
  rw [AccountOp.perform_mutation hop] at herr ⊢
  cases he : op.edited P m with
  | error e' =>
    have refused : ¬op.Accepts P m := by
      rw [AccountOp.accepts_iff]
      intro h
      obtain ⟨m', hm'⟩ := h
      rw [he] at hm'
      cases hm'
    have same : Untouched P m m := ⟨rfl, rfl, fun _ h => h⟩
    simp [refused, same]
  | ok m' =>
    rw [he] at herr
    have accepted : op.Accepts P m := AccountOp.accepts_iff.mpr ⟨m', he⟩
    have idle := AccountOp.edited_eq_iff_idle hop he
    have hfile : m'.file = m.file := (AccountOp.edited_frame hop he).1
    simp only [accepted, not_true, false_or]
    constructor
    · intro h
      have memory : m'.database = m.database ∧ m'.sessions = m.sessions :=
        ⟨h.accounts, h.sessions⟩
      refine ⟨idle.mp memory, ?_⟩
      exact (persistLocked_spares_iff hm.invariant text torn memory.1 hfile herr).mp h.file
    · intro h
      have memory := idle.mpr h.1
      refine ⟨memory.1, memory.2, ?_⟩
      exact (persistLocked_spares_iff hm.invariant text torn memory.1 hfile herr).mpr h.2

/-- Withdrawing a device nobody gave touches nothing when its save fails early. -/
theorem failed_mutation_untouched_withdrawal :
    Untouched freshPlatform freshManager
      ((AccountOp.setDeviceAccess "admin" "phone" false (some .open)).step freshPlatform
        freshManager) := by
  have start : ReachableDatabase freshPlatform freshManager.database := .initial [] _ rfl
  have idle : (AccountOp.setDeviceAccess "admin" "phone" false (some .open)).Idle freshPlatform
      freshManager := ⟨_, rfl, by decide⟩
  have edits : (AccountOp.setDeviceAccess "admin" "phone" false (some .open)).IsMutation := trivial
  apply (failed_mutation_untouched_iff start (Platform.knowing_readsBack _)
    (Platform.knowing_rejectsTorn _) edits rfl).mpr
  exact Or.inr ⟨idle, trivial⟩

/-- An account whose save stopped before its first byte is in memory all the same, and the
account file is left empty. -/
theorem createUser_failed_save_keeps_account :
    let op := AccountOp.createUser "alice" "wonderland" [] (some (.write 0))
    ReachableDatabase freshPlatform freshManager.database ∧ op.IsMutation ∧
      (op.perform freshPlatform freshManager).2 =
        .error (storageError "REMOTE_AUTH_WRITE_FAILED") ∧
      (op.step freshPlatform freshManager).database.users.contains "alice" = true ∧
      (op.step freshPlatform freshManager).file = some [] ∧
      ¬Untouched freshPlatform freshManager (op.step freshPlatform freshManager) := by
  refine ⟨.initial [] _ rfl, trivial, rfl, by decide, rfl, ?_⟩
  intro h
  have hsame := congrArg (fun d => d.users.contains "alice") h.accounts
  revert hsame
  decide

end AdbControl.Remote
