import AdbControl.Remote.AccountDatabase

namespace AdbControl.Remote

open Framework RemoteAccountManager

namespace RemoteAccountManager

variable {P : Platform} {m : RemoteAccountManager}

theorem login_ok {username password token : String} {session : AuthenticatedSession} :
    (m.login P username password token).2 = .ok session ↔ ∃ user,
      m.database.users[username]? = some user ∧
      verifyPassword P password user.passwordHash = .ok () ∧
      session = sessionFromUser token user := by
  unfold login
  cases hu : m.database.users[username]? with
  | none => simp
  | some user =>
    cases hv : verifyPassword P password user.passwordHash with
    | error e => simp [hv]
    | ok _ => simp [hv, eq_comm (a := session)]

/-- A login that is refused changes nothing; one that succeeds opens a session. -/
theorem login_sessions (username password token : String) :
    (m.login P username password token).1.sessions =
      match (m.login P username password token).2 with
      | .ok _ => m.sessions.insert token ⟨username, m.now + m.sessionTtl⟩
      | .error _ => m.sessions := by
  unfold login
  cases m.database.users[username]? with
  | none => rfl
  | some user =>
    dsimp only
    cases verifyPassword P password user.passwordHash <;> rfl

theorem authenticate_sessions (token : String) :
    (m.authenticate token).1.sessions =
      m.sessions.retain (fun _ session => m.now < session.expiresAt) := by
  simp only [authenticate]
  split
  · rfl
  · split <;> rfl

/-- A token authenticates when its session is open, still valid, and its account exists. -/
theorem authenticate_ok {token : String} {session : AuthenticatedSession} :
    (m.authenticate token).2 = .ok session ↔ ∃ record user, m.sessions[token]? = some record ∧
      m.now < record.expiresAt ∧ m.database.users[record.username]? = some user ∧
      session = sessionFromUser token user := by
  have look (record : SessionRecord) :
      (m.sessions.retain (fun _ session => decide (m.now < session.expiresAt)))[token]? =
        some record ↔ m.sessions[token]? = some record ∧ m.now < record.expiresAt := by
    rw [Keyed.lookup_retain, decide_eq_true_iff]
  simp only [authenticate]
  split
  · next hnone =>
    simp only [reduceCtorEq, false_iff]
    intro h
    obtain ⟨record, user, hr, hlive, -⟩ := h
    rw [(look record).mpr ⟨hr, hlive⟩] at hnone
    cases hnone
  · next record hrecord =>
    obtain ⟨hr, hlive⟩ := (look record).mp hrecord
    split
    · next hu => simp [hr, hu]
    · next user hu => simp [hr, hu, hlive, eq_comm (a := session)]

end RemoteAccountManager

namespace AccountOp

/-- The token a successful login returns. -/
def issued (P : Platform) (m : RemoteAccountManager) : AccountOp → List String
  | login username password token =>
    match (m.login P username password token).2 with
    | .ok session => [session.token]
    | .error _ => []
  | _ => []

/-- The operation is a successful login that returns the token for this session. -/
def Opens (P : Platform) (token : String) (record : SessionRecord) (m : RemoteAccountManager) :
    AccountOp → Prop
  | login username password t =>
    t = token ∧ (∃ session, (m.login P username password t).2 = .ok session) ∧
      record = ⟨username, m.now + m.sessionTtl⟩
  | _ => False

/-- The operation logs the token out, or deletes the account or changes its password and passes
its checks, whether or not it is then saved. -/
def Ends (P : Platform) (token username : String) (m : RemoteAccountManager)
    (op : AccountOp) : Prop :=
  match op with
  | logout t => t = token
  | deleteUser u _ | changeOwnPassword u _ _ _ _ | resetPassword u _ _ _ =>
    u = username ∧ op.Accepts P m
  | _ => False

variable {P : Platform} {m : RemoteAccountManager} {op : AccountOp} {token : String}
  {record : SessionRecord}

theorem mem_issued (username password t : String) :
    token ∈ (login username password t).issued P m ↔
      t = token ∧ ∃ session, (m.login P username password t).2 = .ok session := by
  unfold issued
  cases h : (m.login P username password t).2 with
  | error e => simp [h]
  | ok session =>
    obtain ⟨user, -, -, hs⟩ := login_ok.mp h
    subst hs
    simp [h, sessionFromUser, eq_comm (a := t)]

theorem issued_of_opens (h : op.Opens P token record m) : op.issued P m = [token] := by
  cases op with
  | login username password t =>
    obtain ⟨ht, ⟨session, hs⟩, -⟩ := h
    obtain ⟨user, -, -, hu⟩ := login_ok.mp hs
    simp only [issued, hs]
    rw [hu, ← ht]
    rfl
  | _ => exact h.elim

theorem opens_unique {record' : SessionRecord} (h : op.Opens P token record m)
    (h' : op.Opens P token record' m) : record = record' := by
  cases op with
  | login username password t => rw [h.2.2, h'.2.2]
  | _ => exact h.elim

theorem step_mutation_sessions (hop : op.IsMutation) : (op.step P m).sessions =
    match op.edited P m with
    | .ok m' => m'.sessions
    | .error _ => m.sessions := by
  rw [step, perform_mutation hop]
  cases op.edited P m <;> rfl

/-- Revoking the sessions of an account keeps exactly those of the others. -/
theorem lookup_revoked {m' : RemoteAccountManager} (username : String)
    (hs : m'.sessions = (m.revokeSessions username).sessions) :
    m'.sessions[token]? = some record ↔
      m.sessions[token]? = some record ∧ record.username ≠ username := by
  rw [hs, revokeSessions_sessions, Keyed.lookup_retain, bne_iff_ne]

/-- A change that revokes the sessions of an account ends exactly those where it is accepted. -/
theorem lookup_revoking (username : String) (hop : op.IsMutation)
    (hs : ∀ m', op.edited P m = .ok m' → m'.sessions = (m.revokeSessions username).sessions) :
    (op.step P m).sessions[token]? = some record ↔
      m.sessions[token]? = some record ∧ ¬(username = record.username ∧ op.Accepts P m) := by
  rw [step_mutation_sessions hop, accepts_iff]
  cases he : op.edited P m with
  | error e => simp
  | ok m' => simp [lookup_revoked username (hs m' he), eq_comm (a := username)]

theorem sessions_keeping (hop : op.IsMutation)
    (hs : ∀ m', op.edited P m = .ok m' → m'.sessions = m.sessions) :
    (op.step P m).sessions = m.sessions := by
  rw [step_mutation_sessions hop]
  cases he : op.edited P m with
  | error e => rfl
  | ok m' => exact hs m' he

/-- What one operation does to the session table: a login opens its session, an ending operation
or a new session under the same token closes one, and authentication drops the expired ones. -/
theorem lookup_step : (op.step P m).sessions[token]? = some record ↔
    op.Opens P token record m ∨ m.sessions[token]? = some record ∧
      ¬(op.Ends P token record.username m ∨ token ∈ op.issued P m) ∧
      ((∃ t, op = authenticate t) → m.now < record.expiresAt) := by
  cases op with
  | login username password t =>
    have hsessions := login_sessions (P := P) (m := m) username password t
    simp only [step, perform, hsessions, Opens, Ends, mem_issued]
    cases hr : (m.login P username password t).2 with
    | error e => simp
    | ok session =>
      by_cases ht : token = t
      · simp [ht, eq_comm (a := record)]
      · simp [ht, Ne.symm ht]
  | logout t =>
    by_cases ht : token = t <;>
      simp [step, perform, RemoteAccountManager.logout, Opens, Ends, issued, ht, eq_comm (a := t)]
  | authenticate t =>
    have hsessions := authenticate_sessions (m := m) t
    simp only [step, perform, hsessions, Opens, Ends, issued, Keyed.lookup_retain]
    simp
  | createUser username password salt fault =>
    rw [sessions_keeping]
    · simp [Opens, Ends, issued]
    · trivial
    · intro m' he
      obtain ⟨user, -, hm⟩ := map_eq_ok.mp he
      rw [← hm]
      rfl
  | setDeviceAccess username deviceId assigned fault =>
    rw [sessions_keeping]
    · simp [Opens, Ends, issued]
    · trivial
    · intro m' he
      obtain ⟨user, -, hm⟩ := map_eq_ok.mp he
      rw [← hm]
      rfl
  | deleteUser username fault =>
    rw [lookup_revoking username]
    · simp [Opens, Ends, issued]
    · trivial
    · intro m' he
      obtain ⟨_, -, hm⟩ := map_eq_ok.mp he
      rw [← hm]
      rfl
  | changeOwnPassword username currentPassword newPassword salt fault =>
    rw [lookup_revoking username]
    · simp [Opens, Ends, issued]
    · trivial
    · intro m' he
      obtain ⟨_, -, hm⟩ := map_eq_ok.mp he
      rw [← hm]
      rfl
  | resetPassword username newPassword salt fault =>
    rw [lookup_revoking username]
    · simp [Opens, Ends, issued]
    · trivial
    · intro m' he
      obtain ⟨_, -, hm⟩ := map_eq_ok.mp he
      rw [← hm]
      rfl
  | advance elapsed => simp [step, perform, Opens, Ends, issued]

theorem step_mutation_now (hop : op.IsMutation) : (op.step P m).now = m.now := by
  rw [step, perform_mutation hop]
  cases he : op.edited P m with
  | error e => rfl
  | ok m' => exact (edited_frame hop he).2

/-- The clock never goes back. -/
theorem now_le_step : m.now ≤ (op.step P m).now := by
  have mutation (hop : op.IsMutation) : m.now ≤ (op.step P m).now := by
    rw [step_mutation_now hop]
  cases op with
  | login username password t =>
    simp only [step, perform, RemoteAccountManager.login]
    cases m.database.users[username]? with
    | none => exact Nat.le_refl _
    | some user =>
      dsimp only
      cases verifyPassword P password user.passwordHash <;> exact Nat.le_refl _
  | authenticate t =>
    simp only [step, perform, RemoteAccountManager.authenticate]
    split
    · exact Nat.le_refl _
    · split <;> exact Nat.le_refl _
  | logout t => exact Nat.le_refl _
  | advance elapsed => exact Nat.le_add_right _ _
  | createUser | deleteUser | changeOwnPassword | resetPassword | setDeviceAccess =>
    exact mutation trivial

end AccountOp

/-- Every open session is the session of an account. -/
def SessionsKnown (m : RemoteAccountManager) : Prop :=
  ∀ (token : String) (record : SessionRecord), m.sessions[token]? = some record →
    ∃ user, m.database.users[record.username]? = some user

theorem step_sessionsKnown {P : Platform} (m : RemoteAccountManager) (op : AccountOp)
    (h : SessionsKnown m) : SessionsKnown (op.step P m) := by
  intro token record hs
  rcases AccountOp.lookup_step.mp hs with hopen | ⟨hbefore, hstays, -⟩
  · cases op with
    | login username password t =>
      obtain ⟨-, ⟨session, hok⟩, hrecord⟩ := hopen
      obtain ⟨user, hu, -, -⟩ := login_ok.mp hok
      rw [AccountOp.step_database, hrecord]
      exact ⟨user, hu⟩
    | _ => exact hopen.elim
  · obtain ⟨user, hu⟩ := h token record hbefore
    apply AccountOp.account_kept hu
    intro fault hop haccepts
    subst hop
    exact hstays (Or.inl ⟨rfl, haccepts⟩)

/-- The session of this token has been standing since the login that returned it: nothing has
ended it after that. -/
def Standing (P : Platform) (m : RemoteAccountManager) (ops : List AccountOp) (token : String)
    (record : SessionRecord) : Prop :=
  Since (AccountOp.step P) (fun s op => op.Opens P token record s)
    (fun s op => op.Ends P token record.username s) m ops

section Run

variable {P : Platform} {m : RemoteAccountManager} {ops : List AccountOp} {token : String}

/-- No login after the one that returned a token returns it again. -/
theorem issued_once {record : SessionRecord}
    (distinct : (eventsOf (AccountOp.step P) (AccountOp.issued P) m ops).Nodup)
    (pre : List AccountOp) (op : AccountOp) (post : List AccountOp)
    (he : ops = pre ++ op :: post)
    (hopen : op.Opens P token record (run (AccountOp.step P) m pre)) :
    Along (AccountOp.step P) (fun s op => ¬token ∈ op.issued P s)
      (run (AccountOp.step P) m (pre ++ [op])) post := by
  apply along_not_mem
  intro hlater
  have hevents : eventsOf (AccountOp.step P) (AccountOp.issued P) m ops =
      eventsOf (AccountOp.step P) (AccountOp.issued P) m pre ++ (token ::
        eventsOf (AccountOp.step P) (AccountOp.issued P) (run (AccountOp.step P) m (pre ++ [op]))
          post) := by
    rw [he, eventsOf_append, eventsOf_cons, AccountOp.issued_of_opens hopen, run_snoc]
    rfl
  rw [hevents] at distinct
  exact (List.nodup_cons.mp (List.nodup_append.mp distinct).2.1).1 hlater

/-- A session is in the table exactly while it stands, as long as it has not expired. -/
theorem lookup_run_iff (h0 : m.sessions = ∅)
    (distinct : (eventsOf (AccountOp.step P) (AccountOp.issued P) m ops).Nodup)
    {record : SessionRecord} (hlive : (run (AccountOp.step P) m ops).now < record.expiresAt) :
    (run (AccountOp.step P) m ops).sessions[token]? = some record ↔
      Standing P m ops token record := by
  rw [Standing, ← since_or_iff (issued_once distinct)]
  constructor
  · apply since_of_run (fun s : RemoteAccountManager => s.sessions[token]? = some record)
    · simp [h0]
    · intro s op h
      rcases AccountOp.lookup_step.mp h with hopen | ⟨hbefore, hstays, -⟩
      · exact Or.inl hopen
      · exact Or.inr ⟨hbefore, hstays⟩
  · apply run_of_since (fun s : RemoteAccountManager => s.sessions[token]? = some record)
      (fun s : RemoteAccountManager => s.now < record.expiresAt)
    · intro s op h
      exact Nat.lt_of_le_of_lt AccountOp.now_le_step h
    · intro s op hopen
      exact AccountOp.lookup_step.mpr (Or.inl hopen)
    · intro s op hnow hbefore hstays
      exact AccountOp.lookup_step.mpr (Or.inr ⟨hbefore, hstays, fun _ => hnow⟩)
    · exact hlive

theorem run_sessionsKnown (h0 : m.sessions = ∅) (ops : List AccountOp) :
    SessionsKnown (run (AccountOp.step P) m ops) := by
  apply run_invariant_of_step SessionsKnown step_sessionsKnown
  intro token record h
  simp [h0] at h

/-- After any run a token authenticates exactly when its session stands and has not expired, as
the account of its login. -/
theorem authenticate_run_iff (h0 : m.sessions = ∅)
    (distinct : (eventsOf (AccountOp.step P) (AccountOp.issued P) m ops).Nodup)
    {session : AuthenticatedSession} :
    ((run (AccountOp.step P) m ops).authenticate token).2 = .ok session ↔
      ∃ record user, Standing P m ops token record ∧
        (run (AccountOp.step P) m ops).now < record.expiresAt ∧
        (run (AccountOp.step P) m ops).database.users[record.username]? = some user ∧
        session = sessionFromUser token user := by
  rw [authenticate_ok]
  constructor
  · intro h
    obtain ⟨record, user, hr, hlive, hu, hs⟩ := h
    exact ⟨record, user, (lookup_run_iff h0 distinct hlive).mp hr, hlive, hu, hs⟩
  · intro h
    obtain ⟨record, user, hr, hlive, hu, hs⟩ := h
    exact ⟨record, user, (lookup_run_iff h0 distinct hlive).mpr hr, hlive, hu, hs⟩

/-- A device granted or withdrawn shows in a session that is already open. -/
theorem authenticate_after_setDeviceAccess {s : RemoteAccountManager} {record : SessionRecord}
    {user : StoredAccount} {deviceId : String} {assigned : Bool} {fault : Option PersistFault}
    (hr : s.sessions[token]? = some record) (hlive : s.now < record.expiresAt)
    (hu : s.database.users[record.username]? = some user) (hblank : isBlank deviceId = false) :
    (((AccountOp.setDeviceAccess record.username deviceId assigned fault).step P s).authenticate
      token).2 = .ok { sessionFromUser token user with
        devices := if assigned then user.devices.insert deviceId
          else user.devices.erase deviceId } := by
  have hedit : s.setDeviceAccessChecks record.username deviceId assigned = .ok { user with
      devices := if assigned then user.devices.insert deviceId
        else user.devices.erase deviceId } :=
    setDeviceAccessChecks_ok.mpr ⟨hblank, user, hu, rfl⟩
  have hop : (AccountOp.setDeviceAccess record.username deviceId assigned fault).IsMutation :=
    trivial
  have hlookup : ((AccountOp.setDeviceAccess record.username deviceId assigned fault).step P
      s).sessions[token]? = some record := by
    rw [AccountOp.lookup_step]
    refine Or.inr ⟨hr, ?_, fun _ => hlive⟩
    simp [AccountOp.Ends, AccountOp.issued]
  have hnow : ((AccountOp.setDeviceAccess record.username deviceId assigned fault).step P s).now <
      record.expiresAt := by
    rw [AccountOp.step_mutation_now hop]
    exact hlive
  have haccount : ((AccountOp.setDeviceAccess record.username deviceId assigned fault).step P
      s).database.users[record.username]? = some { user with
        devices := if assigned then user.devices.insert deviceId
          else user.devices.erase deviceId } := by
    rw [AccountOp.step_database]
    simp only [AccountOp.edited, hedit, Except.map]
    simp
  exact authenticate_ok.mpr ⟨record, _, hlookup, hnow, haccount, rfl⟩

/-- A token returned to an account that was deleted afterwards does not authenticate again. -/
theorem deleted_token_refused
    (distinct : (eventsOf (AccountOp.step P) (AccountOp.issued P) m ops).Nodup)
    {pre mid post : List AccountOp} {op : AccountOp} {record : SessionRecord} {username : String}
    {fault : Option PersistFault}
    (he : ops = pre ++ op :: (mid ++ .deleteUser username fault :: post))
    (hopen : op.Opens P token record (run (AccountOp.step P) m pre))
    (hname : record.username = username)
    (haccepts : (AccountOp.deleteUser username fault).Accepts P
      (run (AccountOp.step P) m (pre ++ op :: mid))) {record' : SessionRecord} :
    ¬Standing P m ops token record' := by
  intro h
  obtain ⟨pre', op', post', he', hopen', hquiet⟩ := h
  have hmem {s : RemoteAccountManager} {o : AccountOp} {r : SessionRecord}
      (ho : o.Opens P token r s) : token ∈ o.issued P s := by
    rw [AccountOp.issued_of_opens ho]
    exact List.mem_singleton_self token
  obtain ⟨hpre, hop, hpost⟩ := split_unique he he' (hmem hopen) (hmem hopen')
    (issued_once distinct pre op _ he hopen) (issued_once distinct pre' op' _ he' hopen')
  subst hpre hop hpost
  have hrecord : record = record' := AccountOp.opens_unique hopen hopen'
  have hnot := hquiet.at
  rw [← run_append, List.append_assoc, List.singleton_append] at hnot
  exact hnot ⟨by rw [← hrecord, hname], haccepts⟩

end Run

/-- Session validity over any run: a token authenticates exactly when a login returned it, it
has not expired, and nothing ended its session since; what is returned is the account in memory,
where a change of its devices shows at once; and deleting an account ends its tokens for good. -/
theorem authenticate_characterised {P : Platform} {m : RemoteAccountManager} (h0 : m.sessions = ∅)
    (ops : List AccountOp)
    (distinct : (eventsOf (AccountOp.step P) (AccountOp.issued P) m ops).Nodup) (token : String) :
    let s := run (AccountOp.step P) m ops
    ((∃ session, (s.authenticate token).2 = .ok session) ↔
      ∃ record, Standing P m ops token record ∧ s.now < record.expiresAt) ∧
    (∀ session, (s.authenticate token).2 = .ok session → ∃ record user,
      Standing P m ops token record ∧ s.database.users[record.username]? = some user ∧
      session = sessionFromUser token user ∧
      ∀ deviceId assigned fault, isBlank deviceId = false →
        (((AccountOp.setDeviceAccess record.username deviceId assigned fault).step P
          s).authenticate token).2 = .ok { session with
            devices := if assigned then session.devices.insert deviceId
              else session.devices.erase deviceId }) ∧
    (∀ pre op mid username fault post record,
      ops = pre ++ op :: (mid ++ .deleteUser username fault :: post) →
      op.Opens P token record (run (AccountOp.step P) m pre) → record.username = username →
      (AccountOp.deleteUser username fault).Accepts P
        (run (AccountOp.step P) m (pre ++ op :: mid)) →
      ∀ session, (s.authenticate token).2 ≠ .ok session) := by
  intro s
  refine ⟨?_, ?_, ?_⟩
  · constructor
    · intro h
      obtain ⟨session, hs⟩ := h
      obtain ⟨record, user, hstand, hlive, -⟩ := (authenticate_run_iff h0 distinct).mp hs
      exact ⟨record, hstand, hlive⟩
    · intro h
      obtain ⟨record, hstand, hlive⟩ := h
      have hr := (lookup_run_iff h0 distinct hlive).mpr hstand
      obtain ⟨user, hu⟩ := run_sessionsKnown h0 ops token record hr
      exact ⟨_, (authenticate_run_iff h0 distinct).mpr ⟨record, user, hstand, hlive, hu, rfl⟩⟩
  · intro session hs
    obtain ⟨record, user, hstand, hlive, hu, hsession⟩ :=
      (authenticate_run_iff h0 distinct).mp hs
    have hr := (lookup_run_iff h0 distinct hlive).mpr hstand
    refine ⟨record, user, hstand, hu, hsession, ?_⟩
    intro deviceId assigned fault hblank
    rw [hsession]
    exact authenticate_after_setDeviceAccess hr hlive hu hblank
  · intro pre op mid username fault post record he hopen hname haccepts session hs
    obtain ⟨record', user, hstand, -⟩ := (authenticate_run_iff h0 distinct).mp hs
    exact deleted_token_refused distinct he hopen hname haccepts hstand

theorem authenticate_characterised_login :
    ∃ session, ((run (AccountOp.step freshPlatform) freshManager
      [.login "admin" "admin" "t1", .setDeviceAccess "admin" "phone" true none,
        .advance 1000]).authenticate "t1").2 = .ok session := by
  have h := authenticate_characterised (P := freshPlatform) (m := freshManager) rfl
    [.login "admin" "admin" "t1", .setDeviceAccess "admin" "phone" true none, .advance 1000]
    (by decide) "t1"
  have stands : Standing freshPlatform freshManager [.login "admin" "admin" "t1",
      .setDeviceAccess "admin" "phone" true none, .advance 1000] "t1"
      ⟨"admin", defaultSessionTtl⟩ :=
    ⟨[], _, _, rfl, ⟨rfl, ⟨_, rfl⟩, rfl⟩, id, id, trivial⟩
  exact h.1.mpr ⟨_, stands, by decide⟩

end AdbControl.Remote
