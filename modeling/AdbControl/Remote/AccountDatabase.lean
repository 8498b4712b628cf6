import AdbControl.Remote.AccountRun

namespace AdbControl.Remote

open Framework RemoteAccountManager

/-- What every stored account keeps: its key is its name, its name and its device ids pass the
validators, and only the built-in administrator is an administrator or built in. -/
structure AccountFits (key : String) (a : StoredAccount) : Prop where
  username : a.username = key
  name : validateUsername key = .ok ()
  devices : ∀ id ∈ a.devices, isBlank id = false
  rank : if key = defaultAdminUsername then a.role = .admin ∧ a.builtIn = true
    else a.role = .user ∧ a.builtIn = false

/-- The account database invariant. -/
structure DatabaseInvariant (d : AccountDatabase) : Prop where
  version : d.version = databaseVersion
  admin : ∃ a, d.users[defaultAdminUsername]? = some a
  fits : ∀ (key : String) (a : StoredAccount), d.users[key]? = some a → AccountFits key a

theorem DatabaseInvariant.admin_rank {d : AccountDatabase} (h : DatabaseInvariant d)
    {a : StoredAccount} (ha : d.users[defaultAdminUsername]? = some a) :
    a.role = .admin ∧ a.builtIn = true := by
  simpa using (h.fits _ a ha).rank

theorem DatabaseInvariant.user_rank {d : AccountDatabase} (h : DatabaseInvariant d)
    {key : String} {a : StoredAccount} (ha : d.users[key]? = some a)
    (hk : key ≠ defaultAdminUsername) : a.role = .user ∧ a.builtIn = false := by
  simpa [hk] using (h.fits _ a ha).rank

/-- Of all accounts only the built-in administrator has the administrator role. -/
theorem DatabaseInvariant.role_admin_iff {d : AccountDatabase} (h : DatabaseInvariant d)
    {key : String} {a : StoredAccount} (ha : d.users[key]? = some a) :
    a.role = .admin ↔ key = defaultAdminUsername := by
  by_cases hk : key = defaultAdminUsername
  · subst hk; simp [(h.admin_rank ha).1]
  · simp [hk, (h.user_rank ha hk).1]

theorem initialDatabase_invariant (passwordHash : String) :
    DatabaseInvariant (initialDatabase passwordHash) := by
  have users (key : String) : (initialDatabase passwordHash).users[key]? =
      if key = defaultAdminUsername then
        some ⟨defaultAdminUsername, passwordHash, .admin, ∅, true, true⟩ else none := by
    simp [initialDatabase]
  refine ⟨rfl, ⟨_, by rw [users, if_pos rfl]⟩, ?_⟩
  intro key a ha
  rw [users] at ha
  split_ifs at ha with hk
  cases ha
  subst hk
  exact ⟨rfl, by decide, by simp, by simp⟩

/-- Writing a fitting account keeps the invariant. -/
theorem putUser_invariant {m : RemoteAccountManager} {key : String} {a : StoredAccount}
    (h : DatabaseInvariant m.database) (ha : AccountFits key a) :
    DatabaseInvariant (m.putUser key a).database := by
  refine ⟨h.version, ?_, ?_⟩
  · obtain ⟨admin, hadmin⟩ := h.admin
    by_cases hk : defaultAdminUsername = key
    · exact ⟨a, by simp [hk]⟩
    · exact ⟨admin, by simp [hk, hadmin]⟩
  · intro k b hb
    by_cases hk : k = key
    · subst hk
      have he : a = b := by simpa using hb
      exact he ▸ ha
    · exact h.fits k b (by simpa [hk] using hb)

/-- Any account but the built-in administrator's may go. -/
theorem removeUser_invariant {m : RemoteAccountManager} {key : String}
    (h : DatabaseInvariant m.database) (hk : key ≠ defaultAdminUsername) :
    DatabaseInvariant (m.removeUser key).database := by
  refine ⟨h.version, ?_, ?_⟩
  · obtain ⟨admin, hadmin⟩ := h.admin
    exact ⟨admin, by simp [Ne.symm hk, hadmin]⟩
  · intro k b hb
    by_cases he : k = key
    · simp [he] at hb
    · exact h.fits k b (by simpa [he] using hb)

namespace AccountOp

variable {P : Platform} {m m' : RemoteAccountManager} {op : AccountOp}

/-- Each edit of a mutation that passed its checks keeps the database invariant. -/
theorem edited_invariant (h : DatabaseInvariant m.database) (hop : op.edited P m = .ok m') :
    DatabaseInvariant m'.database := by
  cases op with
  | createUser username password salt fault =>
    obtain ⟨user, hchecks, hm⟩ := map_eq_ok.mp hop
    obtain ⟨hname, -, hfresh, hash, -, hu⟩ := createUserChecks_ok.mp hchecks
    subst hm
    obtain ⟨admin, hadmin⟩ := h.admin
    have other : username ≠ defaultAdminUsername := by
      intro he
      rw [he, hadmin] at hfresh
      cases hfresh
    apply putUser_invariant h
    subst hu
    exact ⟨rfl, hname, by simp, by simp [other]⟩
  | deleteUser username fault =>
    obtain ⟨_, hchecks, hm⟩ := map_eq_ok.mp hop
    have other := (deleteUserChecks_ok.mp hchecks).1
    subst hm
    exact removeUser_invariant h other
  | changeOwnPassword username currentPassword newPassword salt fault =>
    obtain ⟨user, hchecks, hm⟩ := map_eq_ok.mp hop
    obtain ⟨-, old, hash, hold, -, -, hu⟩ := changeOwnPasswordChecks_ok.mp hchecks
    have fits := h.fits username old hold
    subst hm
    apply putUser_invariant (m := m) h
    subst hu
    exact ⟨fits.username, fits.name, fits.devices, fits.rank⟩
  | resetPassword username newPassword salt fault =>
    obtain ⟨user, hchecks, hm⟩ := map_eq_ok.mp hop
    obtain ⟨-, old, hash, hold, -, hu⟩ := resetPasswordChecks_ok.mp hchecks
    have fits := h.fits username old hold
    subst hm
    apply putUser_invariant (m := m) h
    subst hu
    exact ⟨fits.username, fits.name, fits.devices, fits.rank⟩
  | setDeviceAccess username deviceId assigned fault =>
    obtain ⟨user, hchecks, hm⟩ := map_eq_ok.mp hop
    obtain ⟨hblank, old, hold, hu⟩ := setDeviceAccessChecks_ok.mp hchecks
    have fits := h.fits username old hold
    subst hm
    apply putUser_invariant h
    subst hu
    refine ⟨fits.username, fits.name, ?_, fits.rank⟩
    intro id hid
    cases assigned with
    | true =>
      rcases (KeySet.mem_insert_iff _ _ _).mp hid with rfl | hid
      · exact hblank
      · exact fits.devices id hid
    | false =>
      exact fits.devices id ((KeySet.mem_erase_iff _ _ _).mp hid).2
  | login | logout | authenticate | advance =>
    cases hop
    exact h

/-- The database after one operation: the edited one when the checks passed, saved or not. -/
theorem step_database : (op.step P m).database =
    match op.edited P m with
    | .ok m' => m'.database
    | .error _ => m.database := by
  have mutation (hop : op.IsMutation) : (op.step P m).database =
      match op.edited P m with
      | .ok m' => m'.database
      | .error _ => m.database := by
    rw [step, perform_mutation hop]
    cases op.edited P m <;> rfl
  cases op with
  | login username password token =>
    simp only [step, perform, edited, RemoteAccountManager.login]
    cases m.database.users[username]? with
    | none => rfl
    | some user =>
      cases hv : verifyPassword P password user.passwordHash <;> simp [hv]
  | authenticate token =>
    simp only [step, perform, edited, RemoteAccountManager.authenticate]
    split
    · rfl
    · split <;> rfl
  | logout | advance => rfl
  | createUser | deleteUser | changeOwnPassword | resetPassword | setDeviceAccess =>
    exact mutation trivial

/-- An account stays in the database until it is deleted. -/
theorem account_kept {username : String} {user : StoredAccount}
    (hu : m.database.users[username]? = some user)
    (hstays : ∀ fault, op = .deleteUser username fault → ¬op.Accepts P m) :
    ∃ user', (op.step P m).database.users[username]? = some user' := by
  have put (key : String) (a : StoredAccount) :
      ∃ user', (m.putUser key a).database.users[username]? = some user' := by
    by_cases hk : username = key
    · exact ⟨a, by simp [hk]⟩
    · exact ⟨user, by simp [hk, hu]⟩
  rw [step_database]
  cases he : op.edited P m with
  | error e => exact ⟨user, hu⟩
  | ok m' =>
    cases op with
    | createUser | setDeviceAccess =>
      obtain ⟨a, -, hm⟩ := map_eq_ok.mp he
      rw [← hm]
      exact put _ a
    | changeOwnPassword | resetPassword =>
      obtain ⟨a, -, hm⟩ := map_eq_ok.mp he
      rw [← hm]
      exact put _ a
    | deleteUser key fault =>
      have other : username ≠ key := by
        intro hk
        subst hk
        exact hstays fault rfl (accepts_iff.mpr ⟨m', he⟩)
      obtain ⟨_, -, hm⟩ := map_eq_ok.mp he
      rw [← hm]
      exact ⟨user, by simp [other, hu]⟩
    | login | logout | authenticate | advance =>
      cases he
      exact ⟨user, hu⟩

/-- A mutation that reports success has saved the database it leaves in memory. -/
theorem step_file_of_ok (hop : op.IsMutation) (hok : (op.perform P m).2 = .ok ()) :
    (op.step P m).file = some (P.print (op.step P m).database.toJson) := by
  rw [step]
  rw [perform_mutation hop] at hok ⊢
  cases he : op.edited P m with
  | error e => rw [he] at hok; cases hok
  | ok m' =>
    rw [he] at hok
    have saved : op.fault = none := (persistLocked_ok_iff P m' op.fault).mp hok
    simp only [saved]
    rfl

theorem step_invariant (h : DatabaseInvariant m.database) :
    DatabaseInvariant (op.step P m).database := by
  rw [step_database]
  cases hop : op.edited P m with
  | error e => exact h
  | ok m' => exact edited_invariant h hop

end AccountOp

/-- The invariant holds after any sequence of operations. -/
theorem accountRun_invariant (P : Platform) {m : RemoteAccountManager} (ops : List AccountOp)
    (h : DatabaseInvariant m.database) :
    DatabaseInvariant (run (AccountOp.step P) m ops).database :=
  run_invariant_of_step (fun m : RemoteAccountManager => DatabaseInvariant m.database)
    (fun _ _ h => AccountOp.step_invariant h) ops h

theorem validateDatabase_of_invariant {d : AccountDatabase} (h : DatabaseInvariant d) :
    validateDatabase d = .ok () := by
  obtain ⟨a, ha⟩ := h.admin
  have rank := h.admin_rank ha
  simp [validateDatabase, ha, h.version, rank.1, rank.2]

theorem RemoteRole.ofJson_toJson (r : RemoteRole) : RemoteRole.ofJson r.toJson = some r := by
  cases r <;> rfl

theorem asStrings_strings (l : List String) :
    (Value.array (l.map Value.string)).asStrings = some l := by
  have texts : (l.map Value.string).mapM Value.asStr = some l := by
    induction l with
    | nil => rfl
    | cons s l ih => rw [List.map_cons, List.mapM_cons, ih]; rfl
  rw [Value.asStrings, Value.asArray, Option.bind_some, texts]

/-- A stored account reads back from its own JSON. -/
theorem StoredAccount.ofJson_toJson (a : StoredAccount) :
    StoredAccount.ofJson a.toJson = some a := by
  have devices : Std.ExtTreeSet.ofList a.devices.toList = a.devices := by
    apply Std.ExtTreeSet.ext_mem
    intro id
    rw [Std.ExtTreeSet.mem_ofList, List.contains_iff_mem, Std.ExtTreeSet.mem_toList]
  have fields : a.toJson.structFields fieldNames =
      some [some (.string a.username), some (.string a.passwordHash), some a.role.toJson,
        some (.array (a.devices.toList.map .string)), some (.bool a.builtIn),
        some (.bool a.passwordChangeRequired)] := rfl
  simp only [StoredAccount.ofJson, fields]
  simp [Value.asStr, Value.asBool, RemoteRole.ofJson_toJson, asStrings_strings, devices]

/-- A database of the supported version reads back from its own JSON. -/
theorem AccountDatabase.ofJson_toJson {d : AccountDatabase} (h : d.version = databaseVersion) :
    AccountDatabase.ofJson d.toJson = some d := by
  have members (l : List (String × StoredAccount)) :
      (l.map (fun u => (u.1, u.2.toJson))).mapM
        (fun m => (StoredAccount.ofJson m.2).map (fun a => (m.1, a))) = some l := by
    induction l with
    | nil => rfl
    | cons u l ih =>
      simp only [List.map_cons, List.mapM_cons, StoredAccount.ofJson_toJson, Option.map_some]
      simp [ih]
  have fields : d.toJson.structFields ["version", "users"] =
      some [some (.number (.posInt d.version)),
        some (.object (d.users.toList.map (fun u => (u.1, u.2.toJson))))] := rfl
  have version : Value.asUnsigned 32 (.number (.posInt d.version)) = some d.version := by
    rw [h]; rfl
  simp only [AccountDatabase.ofJson, fields]
  simp [version, members, Keyed.ofList_toList]

/-- The text layer of serde_json reads back what it printed for this database. -/
def Platform.ReadsBack (P : Platform) (d : AccountDatabase) : Prop :=
  P.parse (P.print d.toJson) = some d.toJson

/-- A platform whose parser knows the texts of the given values. -/
def Platform.knowing (values : List Value) : Platform where
  hash _ password := some ("$argon2id$" ++ password)
  parsesHash encoded := startsWith encoded "$argon2id$"
  verifies password encoded := encoded == "$argon2id$" ++ password
  print := Value.prettyBytes
  parse bytes := values.find? (fun v => v.prettyBytes == bytes)

theorem Platform.knowing_readsBack (d : AccountDatabase) :
    (Platform.knowing [d.toJson]).ReadsBack d := by
  simp [Platform.ReadsBack, Platform.knowing]

/-- What the program saved for a database that meets the invariant loads to that database. -/
theorem loadDatabase_print {P : Platform} {d : AccountDatabase} (h : DatabaseInvariant d)
    (hP : P.ReadsBack d) : loadDatabase P (P.print d.toJson) = .ok d := by
  unfold Platform.ReadsBack at hP
  simp [loadDatabase, hP, AccountDatabase.ofJson_toJson h.version,
    validateDatabase_of_invariant h]

/-- The databases the manager can hold: the one of a first start, what any operation makes of
one, and what loading a file the program wrote gives. -/
inductive ReachableDatabase (P : Platform) : AccountDatabase → Prop
  | initial (salt : List UInt8) (passwordHash : String)
      (hash : hashPassword P salt defaultAdminPassword = .ok passwordHash) :
      ReachableDatabase P (initialDatabase passwordHash)
  | operated (m : RemoteAccountManager) (op : AccountOp) (before : ReachableDatabase P m.database) :
      ReachableDatabase P (op.step P m).database
  | reloaded (d d' : AccountDatabase) (before : ReachableDatabase P d) (text : P.ReadsBack d)
      (load : loadDatabase P (P.print d.toJson) = .ok d') : ReachableDatabase P d'

theorem ReachableDatabase.invariant {P : Platform} {d : AccountDatabase}
    (h : ReachableDatabase P d) : DatabaseInvariant d := by
  induction h with
  | initial salt passwordHash hash => exact initialDatabase_invariant passwordHash
  | operated m op before ih => exact AccountOp.step_invariant ih
  | reloaded d d' before text load ih =>
    rw [loadDatabase_print ih text] at load
    cases load
    exact ih

theorem ReachableDatabase.run {P : Platform} {m : RemoteAccountManager} (ops : List AccountOp)
    (h : ReachableDatabase P m.database) :
    ReachableDatabase P (Framework.run (AccountOp.step P) m ops).database :=
  run_invariant_of_step (fun m : RemoteAccountManager => ReachableDatabase P m.database)
    (fun m op h => .operated m op h) ops h

/-- Every database the manager can hold keeps the invariant, and what a successful mutation
saves passes validation and loads to the database in memory. -/
theorem reachable_database_saved {P : Platform} {d : AccountDatabase}
    (h : ReachableDatabase P d) :
    DatabaseInvariant d ∧ ∀ (m : RemoteAccountManager) (op : AccountOp), m.database = d →
      op.IsMutation → (op.perform P m).2 = .ok () →
        validateDatabase (op.step P m).database = .ok () ∧
        ∃ bytes, (op.step P m).file = some bytes ∧
          (P.ReadsBack (op.step P m).database →
            loadDatabase P bytes = .ok (op.step P m).database) := by
  refine ⟨h.invariant, ?_⟩
  intro m op hm hop hok
  subst hm
  have keep : DatabaseInvariant (op.step P m).database :=
    AccountOp.step_invariant h.invariant
  have saved : (op.step P m).file = some (P.print (op.step P m).database.toJson) :=
    AccountOp.step_file_of_ok hop hok
  exact ⟨validateDatabase_of_invariant keep, _, saved, loadDatabase_print keep⟩

/-- The manager of a first start, with its file. -/
def freshManager : RemoteAccountManager :=
  ⟨defaultSessionTtl, initialDatabase "$argon2id$admin", ∅,
    some (initialDatabase "$argon2id$admin").toJson.prettyBytes, 0⟩

/-- A platform that can read back what a first start saves. -/
def freshPlatform : Platform := .knowing [freshManager.database.toJson]

def createAlice : AccountOp := .createUser "alice" "wonderland" [] none

/-- A platform that can read back what creating the account saves. -/
def alicePlatform : Platform :=
  .knowing [(createAlice.step (.knowing []) freshManager).database.toJson]

theorem reachable_database_saved_alice :
    DatabaseInvariant (initialDatabase "$argon2id$admin") ∧
      ∃ bytes, (createAlice.step alicePlatform freshManager).file = some bytes ∧
        loadDatabase alicePlatform bytes =
          .ok (createAlice.step alicePlatform freshManager).database := by
  have start : ReachableDatabase alicePlatform (initialDatabase "$argon2id$admin") :=
    .initial [] _ rfl
  have h := reachable_database_saved start
  obtain ⟨-, bytes, hfile, hload⟩ := h.2 freshManager createAlice rfl trivial rfl
  have same : (createAlice.step alicePlatform freshManager).database =
      (createAlice.step (.knowing []) freshManager).database := rfl
  have text : alicePlatform.ReadsBack (createAlice.step alicePlatform freshManager).database := by
    rw [same]
    exact Platform.knowing_readsBack _
  exact ⟨h.1, bytes, hfile, hload text⟩

end AdbControl.Remote
