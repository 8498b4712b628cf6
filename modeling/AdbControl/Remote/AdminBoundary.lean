import AdbControl.Remote.AccountSessions
import AdbControl.Remote.Confinement
import AdbControl.Remote.LocalAdmin

namespace AdbControl.Remote

open Framework

/-- The operation is no attempt to sign the administrator in. -/
def AccountOp.UserOp (op : AccountOp) : Prop :=
  ∀ password token, op ≠ .login defaultAdminUsername password token

theorem AccountOp.userOp_login {username password token : String}
    (h : username ≠ defaultAdminUsername) : (AccountOp.login username password token).UserOp := by
  intro p t he
  injection he with hname
  exact h hname

variable {σ : Type} {P : Platform} {other : σ → IpcRequest → σ × IpcResponse}

/-- A request of a user's kind: the accounts went through operations that sign no administrator
in, and the local administration returned no token. -/
def UserOps (P : Platform) (w w' : World (CoreState σ)) : Prop :=
  ∃ ops : List AccountOp, (∀ op ∈ ops, op.UserOp) ∧
    w'.accounts = run (AccountOp.step P) w.accounts ops ∧
    w'.core.adminTokens = w.core.adminTokens

theorem UserOps.refl (w : World (CoreState σ)) : UserOps P w w := ⟨[], by simp, rfl, rfl⟩

theorem UserOps.trans {w w' w'' : World (CoreState σ)} (h : UserOps P w w')
    (h' : UserOps P w' w'') : UserOps P w w'' := by
  obtain ⟨ops, hops, hacc, htok⟩ := h
  obtain ⟨ops', hops', hacc', htok'⟩ := h'
  refine ⟨ops ++ ops', ?_, by rw [hacc', hacc, run_append], by rw [htok', htok]⟩
  intro op hop
  exact (List.mem_append.mp hop).elim (hops op) (hops' op)

/-- The core left alone and the accounts after one operation. -/
theorem UserOps.of_op {w : World (CoreState σ)} {m : RemoteAccountManager} (op : AccountOp)
    (hop : op.UserOp) (hm : m = op.step P w.accounts) :
    UserOps P w { w with accounts := m } :=
  ⟨[op], by simpa using hop, by rw [hm]; rfl, rfl⟩

/-- What holds of every reachable world: the account invariant, and that each open session of the
administrator bears a token the local administration returned. -/
structure BoundaryInvariant (w : World (CoreState σ)) : Prop where
  database : DatabaseInvariant w.accounts.database
  adminSessions : ∀ (token : String) (record : SessionRecord),
    w.accounts.sessions[token]? = some record → record.username = defaultAdminUsername →
      token ∈ w.core.adminTokens

/-- Operations that sign no administrator in open no session of one. -/
theorem admin_session_before {m : RemoteAccountManager} {ops : List AccountOp} {token : String}
    {record : SessionRecord} (hops : ∀ op ∈ ops, op.UserOp)
    (h : (run (AccountOp.step P) m ops).sessions[token]? = some record)
    (hname : record.username = defaultAdminUsername) : m.sessions[token]? = some record := by
  induction ops generalizing m with
  | nil => exact h
  | cons op ops ih =>
    have after := ih (fun o ho => hops o (List.mem_cons_of_mem op ho)) h
    rcases AccountOp.lookup_step.mp after with hopen | ⟨hbefore, -⟩
    · cases op with
      | login username password t =>
        obtain ⟨-, -, hrecord⟩ := hopen
        have hadmin : username = defaultAdminUsername := by
          rw [← hname, hrecord]
        subst hadmin
        exact absurd rfl (hops _ List.mem_cons_self password t)
      | _ => exact hopen.elim
    · exact hbefore

theorem UserOps.invariant {w w' : World (CoreState σ)} (h : UserOps P w w')
    (hw : BoundaryInvariant w) : BoundaryInvariant w' := by
  obtain ⟨ops, hops, haccounts, htokens⟩ := h
  refine ⟨?_, ?_⟩
  · rw [haccounts]
    exact accountRun_invariant P ops hw.database
  · intro token record hlookup hname
    rw [haccounts] at hlookup
    rw [htokens]
    exact hw.adminSessions token record (admin_session_before hops hlookup hname) hname

section Core

variable {w : World (CoreState σ)} {d : Draws}

/-- A method of the core's own leaves the accounts alone. -/
theorem coreHandleRequest_own {request : IpcRequest}
    (h : isLocalAdminMethod request.method = false) :
    UserOps P w (coreHandleRequest P other w d request).1 := by
  simp only [coreHandleRequest, h]
  exact ⟨[], by simp, rfl, rfl⟩

theorem confined_not_localAdmin {session : AuthenticatedSession} {method : String}
    {params : Value} (h : Confined session method params) : isLocalAdminMethod method = false := by
  have user : ∀ method ∈ userMethods, isLocalAdminMethod method = false := by decide
  have device : ∀ method ∈ deviceMethods, isLocalAdminMethod method = false := by decide
  rcases h with huser | ⟨deviceId, haddressed, -⟩
  · exact user method huser
  · unfold addressedDevice at haddressed
    split_ifs at haddressed with hadb hdevice
    · rw [hadb]
      decide
    · exact device method hdevice

end Core

namespace RemoteControlService

variable {w : World (CoreState σ)} {d : Draws} {request : RemoteRequest}
  {session : AuthenticatedSession}

theorem currentAdbDeviceIds_userOps (w : World (CoreState σ)) (d : Draws) :
    UserOps P w (currentAdbDeviceIds (coreHandleRequest P other) w d).1 := by
  have listing : isLocalAdminMethod adbDevicesRequest.method = false := by decide
  exact coreHandleRequest_own listing

theorem resolveRequestDeviceAlias_userOps (w : World (CoreState σ)) (d : Draws)
    (request : RemoteRequest) (session : AuthenticatedSession) :
    UserOps P w (resolveRequestDeviceAlias (coreHandleRequest P other) w d request session).1 := by
  unfold resolveRequestDeviceAlias
  split
  · exact UserOps.refl w
  · split_ifs
    · dsimp only
      split <;> exact currentAdbDeviceIds_userOps w d
    · exact UserOps.refl w

theorem forwardTo_userOps {calls : List CoreCall} (h : isLocalAdminMethod request.method = false) :
    UserOps P w (forwardTo (coreHandleRequest P other) w d request session calls).world := by
  have own : UserOps P w (call (coreHandleRequest P other) w d .forward
      ⟨request.id, request.method, request.params⟩).1 := coreHandleRequest_own h
  simp only [forwardTo]
  split
  · exact own.trans (currentAdbDeviceIds_userOps _ d)
  · exact own

theorem forwardCoreRequest_userOps (hrole : session.role ≠ .admin) :
    UserOps P w (forwardCoreRequest (coreHandleRequest P other) w d request session).world := by
  have resolved : UserOps P w
      (resolveRequestDeviceAlias (coreHandleRequest P other) w d request session).1 :=
    resolveRequestDeviceAlias_userOps w d request session
  simp only [forwardCoreRequest, if_neg hrole]
  split
  · exact resolved
  · next hauth =>
    exact resolved.trans (forwardTo_userOps (confined_not_localAdmin (confined_of_authorized hauth)))

/-- A user's request changes the accounts by user operations only. -/
theorem serve_userOps (token : String) (hrole : session.role ≠ .admin) :
    UserOps P w (serve P (coreHandleRequest P other) w d request session token).world := by
  have same {x : Exchange (CoreState σ)} (hx : x.world = w) : UserOps P w x.world := by
    rw [hx]
    exact UserOps.refl w
  apply user_serve_branches token hrole (fun x => UserOps P w x.world)
  · intro e
    exact same rfl
  · exact same rfl
  · exact UserOps.of_op (.logout token) (by simp [AccountOp.UserOp]) rfl
  · unfold changePassword
    split
    · exact same rfl
    · next params _ =>
      exact UserOps.of_op (.changeOwnPassword session.username params.currentPassword
        params.newPassword d.salt d.fault) (by simp [AccountOp.UserOp]) rfl
  · exact same reportDiagnostics_quiet.1
  · exact forwardCoreRequest_userOps hrole

/-- A request that is not served as the administrator changes the accounts by user operations
only; the remote login takes every name but the administrator's. -/
theorem handleRequest_userOps
    (hserved : ∀ session, (handleRequest P (coreHandleRequest P other) w d request).servedAs =
      some session → session.role ≠ .admin) :
    UserOps P w (handleRequest P (coreHandleRequest P other) w d request).world := by
  unfold handleRequest at hserved ⊢
  split_ifs at hserved ⊢ with hlogin
  · unfold login
    split
    · exact UserOps.refl w
    · next params _ =>
      split_ifs with hadmin
      · exact UserOps.refl w
      · exact UserOps.of_op (.login params.username params.password d.token)
          (AccountOp.userOp_login hadmin) rfl
  · split
    · exact UserOps.refl w
    · next token htoken =>
      have authenticated : UserOps P w { w with accounts := (w.accounts.authenticate token).1 } :=
        UserOps.of_op (.authenticate token) (by simp [AccountOp.UserOp]) rfl
      rw [htoken] at hserved
      dsimp only at hserved ⊢
      split
      · exact authenticated
      · next session hsession =>
        rw [hsession] at hserved
        exact authenticated.trans (serve_userOps token (hserved session (serve_servedAs token)))

end RemoteControlService

namespace LocalAdminService

variable {m : RemoteAccountManager} {d : Draws} {request : IpcRequest}

/-- The accounts went through operations that sign no administrator in. -/
def AccountUserOps (P : Platform) (m m' : RemoteAccountManager) : Prop :=
  ∃ ops : List AccountOp, (∀ op ∈ ops, op.UserOp) ∧ m' = run (AccountOp.step P) m ops

theorem AccountUserOps.refl (m : RemoteAccountManager) : AccountUserOps P m m :=
  ⟨[], by simp, rfl⟩

/-- One more operation. -/
theorem AccountUserOps.snoc {m m' m'' : RemoteAccountManager} (h : AccountUserOps P m m')
    (op : AccountOp) (hop : op.UserOp) (hm : m'' = op.step P m') : AccountUserOps P m m'' := by
  obtain ⟨ops, hops, hrun⟩ := h
  refine ⟨ops ++ [op], ?_, by rw [hm, hrun, run_snoc]⟩
  intro o ho
  rcases List.mem_append.mp ho with ho | ho
  · exact hops o ho
  · rw [List.mem_singleton.mp ho]
    exact hop

theorem authenticateAdmin_userOps (params : Value) :
    AccountUserOps P m (authenticateAdmin m params).1 := by
  unfold authenticateAdmin
  split
  · exact AccountUserOps.refl m
  · next params _ =>
    have authenticated : AccountUserOps P m (m.authenticate params.sessionToken).1 :=
      (AccountUserOps.refl m).snoc (.authenticate params.sessionToken) (by simp [AccountOp.UserOp])
        rfl
    dsimp only
    split
    · exact authenticated
    · split_ifs <;> exact authenticated

theorem AccountUserOps.ite {m : RemoteAccountManager} {c : Prop} [Decidable c] {r r' : Answer}
    (h : AccountUserOps P m r.1) (h' : AccountUserOps P m r'.1) :
    AccountUserOps P m (if c then r else r').1 := by
  by_cases hc : c
  · rw [if_pos hc]
    exact h
  · rw [if_neg hc]
    exact h'

/-- Nothing the administrator asks signs an administrator in. -/
theorem serve_userOps {m' : RemoteAccountManager} (session : AuthenticatedSession)
    (h : AccountUserOps P m m') : AccountUserOps P m (serve P m' d request session).1 := by
  unfold serve
  refine .ite h (.ite h (.ite ?logout (.ite ?password (.ite h (.ite ?create (.ite ?delete
    (.ite ?reset (.ite ?assign h))))))))
  case logout => exact h.snoc (.logout session.token) (by simp [AccountOp.UserOp]) rfl
  case password =>
    unfold changePassword
    split
    · exact h
    · next params _ =>
      have again : AccountUserOps P m (m'.authenticate session.token).1 :=
        h.snoc (.authenticate session.token) (by simp [AccountOp.UserOp]) rfl
      dsimp only
      split
      · exact again
      · next session _ =>
        exact again.snoc (.changeOwnPassword session.username params.currentPassword
          params.newPassword d.salt d.fault) (by simp [AccountOp.UserOp]) rfl
  case create =>
    unfold createUser
    split
    · exact h
    · next params _ =>
      exact h.snoc (.createUser params.username params.password d.salt d.fault)
        (by simp [AccountOp.UserOp]) (by simp [AccountOp.step, AccountOp.perform, account])
  case delete =>
    unfold deleteUser
    split
    · exact h
    · next params _ =>
      split
      · exact h
      · exact h.snoc (.deleteUser params.username d.fault) (by simp [AccountOp.UserOp]) rfl
  case reset =>
    unfold resetPassword
    split
    · exact h
    · next params _ =>
      split
      · exact h
      · exact h.snoc (.resetPassword params.username params.newPassword d.salt d.fault)
          (by simp [AccountOp.UserOp]) rfl
  case assign =>
    unfold assignDevice
    split
    · exact h
    · next params _ =>
      split
      · exact h
      · exact h.snoc (.setDeviceAccess params.username params.deviceId params.assigned d.fault)
          (by simp [AccountOp.UserOp]) rfl

/-- A local request but the login signs no administrator in. -/
theorem handleRequest_userOps (h : request.method ≠ "remote.admin.login") :
    AccountUserOps P m (handleRequest P m d request).1 := by
  unfold handleRequest
  rw [if_neg h]
  split_ifs
  · unfold inspectRemoteSession
    split
    · exact AccountUserOps.refl m
    · next params _ =>
      have authenticated : AccountUserOps P m (m.authenticate params.remoteSessionToken).1 :=
        (AccountUserOps.refl m).snoc (.authenticate params.remoteSessionToken)
          (by simp [AccountOp.UserOp]) rfl
      dsimp only
      split
      · exact authenticated
      · split_ifs <;> exact authenticated
  · have authenticated := authenticateAdmin_userOps (P := P) (m := m) request.params
    dsimp only
    split
    · exact authenticated
    · next session _ => exact serve_userOps session authenticated

/-- The administrator sessions after a local request: those before, and one for the token the
login returned. -/
theorem handleRequest_adminSessions {token : String} {record : SessionRecord}
    (h : (handleRequest P m d request).1.sessions[token]? = some record)
    (hname : record.username = defaultAdminUsername) :
    m.sessions[token]? = some record ∨ token ∈ issued P m d request := by
  by_cases hmethod : request.method = "remote.admin.login"
  · have other : request.method ≠ "remote.internal.session.inspect" := by
      rw [hmethod]
      decide
    rw [handleRequest, if_neg other, if_pos hmethod] at h
    unfold login at h
    unfold issued
    rw [if_pos hmethod]
    split at h
    · exact Or.inl h
    · next params _ =>
      have after : ((AccountOp.login defaultAdminUsername params.password d.token).step P
          m).sessions[token]? = some record := h
      rcases AccountOp.lookup_step.mp after with hopen | ⟨hbefore, -⟩
      · right
        show token ∈ (AccountOp.login defaultAdminUsername params.password d.token).issued P m
        rw [AccountOp.issued_of_opens hopen]
        exact List.mem_singleton_self token
      · exact Or.inl hbefore
  · obtain ⟨ops, hops, hrun⟩ := handleRequest_userOps (P := P) (m := m) (d := d) hmethod
    rw [hrun] at h
    exact Or.inl (admin_session_before hops h hname)

end LocalAdminService

/-- The local administration keeps the account invariant. -/
theorem LocalAdminService.handleRequest_database {m : RemoteAccountManager} {d : Draws}
    {request : IpcRequest} (hm : DatabaseInvariant m.database) :
    DatabaseInvariant (handleRequest P m d request).1.database := by
  by_cases hmethod : request.method = "remote.admin.login"
  · have other : request.method ≠ "remote.internal.session.inspect" := by
      rw [hmethod]
      decide
    rw [handleRequest, if_neg other, if_pos hmethod, login]
    split
    · exact hm
    · next params _ =>
      have after : DatabaseInvariant ((AccountOp.login defaultAdminUsername params.password
          d.token).step P m).database := AccountOp.step_invariant hm
      exact after
  · obtain ⟨ops, -, hrun⟩ := handleRequest_userOps (P := P) (m := m) (d := d) hmethod
    rw [hrun]
    exact accountRun_invariant P ops hm

/-- The remote request presents a token that a login of the local administration returned, while
the session of that token is open. -/
def PresentsAdminToken (w : World (CoreState σ)) (request : RemoteRequest) : Prop :=
  request.method ≠ "auth.login" ∧ ∃ token ∈ w.core.adminTokens,
    request.sessionToken = some token ∧ ∃ record, w.accounts.sessions[token]? = some record ∧
      w.accounts.now < record.expiresAt

/-- No administrator's token came in over the remote endpoint. -/
def NoAdminToken (w : World (CoreState σ)) : Arrival → Prop
  | .remote _ request => ¬PresentsAdminToken w request
  | _ => True

/-- What arrives over the remote endpoint is not served as the administrator, and calls no method
of the local administration. -/
def NoAdminRemote (P : Platform) (other : σ → IpcRequest → σ × IpcResponse)
    (w : World (CoreState σ)) : Arrival → Prop
  | .remote d request =>
    let x := RemoteControlService.handleRequest P (coreHandleRequest P other) w d request
    (∀ session, x.servedAs = some session → session.role ≠ .admin) ∧
      ∀ c ∈ x.calls, isLocalAdminMethod c.request.method = false
  | _ => True

/-- Under the invariant only an administrator's token authenticates as an administrator. -/
theorem served_not_admin {w : World (CoreState σ)} {d : Draws} {request : RemoteRequest}
    (hw : BoundaryInvariant w) (hclean : ¬PresentsAdminToken w request)
    {session : AuthenticatedSession}
    (hserved : (RemoteControlService.handleRequest P (coreHandleRequest P other) w d
      request).servedAs = some session) : session.role ≠ .admin := by
  rcases RemoteControlService.handleRequest_cases P (coreHandleRequest P other) w d request with
    ⟨hnone, -⟩ | ⟨token, s, hmethod, htoken, hauth, hserve⟩
  · rw [hnone] at hserved
    cases hserved
  · rw [hserve, RemoteControlService.serve_servedAs] at hserved
    cases hserved
    obtain ⟨record, user, hrecord, hlive, hu, hs⟩ := RemoteAccountManager.authenticate_ok.mp hauth
    intro hrole
    have hadmin : user.role = .admin := by
      rw [hs] at hrole
      exact hrole
    have hname := (hw.database.role_admin_iff hu).mp hadmin
    have hissued := hw.adminSessions token record hrecord hname
    exact hclean ⟨hmethod, token, hissued, htoken, record, hrecord, hlive⟩

/-- One arrival without an administrator's token keeps the invariant and is safe. -/
theorem boundary_step {w : World (CoreState σ)} {a : Arrival} (hw : BoundaryInvariant w)
    (hclean : NoAdminToken w a) :
    BoundaryInvariant (a.step P other w) ∧ NoAdminRemote P other w a := by
  cases a with
  | remote d request =>
    have notAdmin (session : AuthenticatedSession) (hserved : (RemoteControlService.handleRequest P
        (coreHandleRequest P other) w d request).servedAs = some session) :
        session.role ≠ .admin := served_not_admin hw hclean hserved
    refine ⟨(RemoteControlService.handleRequest_userOps notAdmin).invariant hw, notAdmin, ?_⟩
    intro c hc
    rcases RemoteControlService.handleRequest_cases P (coreHandleRequest P other) w d request with
      ⟨-, hnone⟩ | ⟨token, session, -, -, -, hserve⟩
    · rw [hnone] at hc
      cases hc
    · have hserved : (RemoteControlService.handleRequest P (coreHandleRequest P other) w d
          request).servedAs = some session := by
        rw [hserve, RemoteControlService.serve_servedAs]
      have huser := RemoteControlService.user_calls hserved (notAdmin session hserved) c hc
      rcases huser with hlisting | ⟨-, hforward⟩
      · rw [hlisting]
        decide
      · exact confined_not_localAdmin hforward.confined
  | ipc d request =>
    refine ⟨?_, trivial⟩
    simp only [Arrival.step, coreHandleRequest]
    split_ifs
    · refine ⟨LocalAdminService.handleRequest_database hw.database, ?_⟩
      intro token record hlookup hname
      rw [List.mem_append]
      exact (LocalAdminService.handleRequest_adminSessions hlookup hname).imp
        (fun hbefore => hw.adminSessions token record hbefore hname) (fun hnew => hnew)
    · exact ⟨hw.database, hw.adminSessions⟩
  | elapse elapsed => exact ⟨⟨hw.database, hw.adminSessions⟩, trivial⟩

/-- In every run over both endpoints in which no open token of a local administrator login comes
in over the remote endpoint, nothing there is served as the administrator or reaches the local
administration. -/
theorem no_admin_over_remote {w : World (CoreState σ)}
    (hdb : ReachableDatabase P w.accounts.database) (h0 : w.accounts.sessions = ∅)
    (arrivals : List Arrival) (hclean : Along (Arrival.step P other) NoAdminToken w arrivals) :
    Along (Arrival.step P other) (NoAdminRemote P other) w arrivals := by
  apply along_safe BoundaryInvariant (fun _ _ hw hc => (boundary_step hw hc).1)
    (fun _ _ hw hc => (boundary_step hw hc).2) _ hclean
  refine ⟨hdb.invariant, ?_⟩
  intro token record h
  simp [h0] at h

/-- A fresh start, with a core whose own methods answer null. -/
def startWorld : World (CoreState Unit) := ⟨freshManager, ⟨(), []⟩⟩

def nullCore (s : Unit) (request : IpcRequest) : Unit × IpcResponse :=
  (s, .success request.id .null)

/-- The local console signs the administrator in, changes the password and signs in again. -/
def consoleLogins : List Arrival :=
  [.ipc ⟨"t1", [], none⟩ ⟨"1", "remote.admin.login", .object [("password", .string "admin")]⟩,
    .ipc ⟨"", [], none⟩ ⟨"2", "remote.admin.changePassword", .object
      [("sessionToken", .string "t1"), ("currentPassword", .string "admin"),
        ("newPassword", .string "long enough")]⟩,
    .ipc ⟨"t2", [], none⟩ ⟨"3", "remote.admin.login",
      .object [("password", .string "long enough")]⟩]

/-- A remote request under the token of the console. -/
def remoteListUsers : RemoteRequest :=
  ⟨"4", some "t2", "remote.admin.users.list", .object [("sessionToken", .string "t2")]⟩

theorem no_admin_over_remote_user :
    Along (Arrival.step freshPlatform nullCore) (NoAdminRemote freshPlatform nullCore) startWorld
      (consoleLogins ++ [.remote ⟨"t3", [], none⟩ ⟨"4", some "t0", "auth.me", .null⟩]) := by
  apply no_admin_over_remote (.initial [] _ rfl) rfl
  refine ⟨trivial, trivial, trivial, ?_, trivial⟩
  intro h
  obtain ⟨-, token, hissued, htoken, -⟩ := h
  cases htoken
  revert hissued
  decide

/-- A token of the local console is served as the administrator over the remote endpoint, and
its request reaches the local administration, which answers it. -/
theorem console_token_served_remotely :
    let w := run (Arrival.step freshPlatform nullCore) startWorld consoleLogins
    let x := RemoteControlService.handleRequest freshPlatform
      (coreHandleRequest freshPlatform nullCore) w ⟨"t3", [], none⟩ remoteListUsers
    ReachableDatabase freshPlatform startWorld.accounts.database ∧
      startWorld.accounts.sessions = ∅ ∧ x.servedAs.map (·.role) = some .admin ∧
      x.calls.map (fun c => isLocalAdminMethod c.request.method) = [true] ∧
      x.response.ok = true ∧
      ¬Along (Arrival.step freshPlatform nullCore) (NoAdminRemote freshPlatform nullCore)
        startWorld (consoleLogins ++ [.remote ⟨"t3", [], none⟩ remoteListUsers]) := by
  refine ⟨.initial [] _ rfl, rfl, rfl, by decide, rfl, ?_⟩
  intro h
  have last := h.at
  exact last.1 _ rfl rfl

end AdbControl.Remote
