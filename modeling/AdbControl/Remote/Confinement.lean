import AdbControl.Remote.Service
import AdbControl.Remote.AccountDatabase

namespace AdbControl.Remote

open Framework

namespace RemoteControlService

variable {σ : Type} {P : Platform} {H : CoreRequestHandler σ} {w : World σ} {d : Draws}
  {request : RemoteRequest} {session : AuthenticatedSession}

/-- Replacing the serial of an ADB call puts the new one at `args[1]`. -/
theorem adbArgs_readdressed {args : List Value} (current : String)
    (hmethod : request.method = "adb.exec") (hargs : adbArgs request.params = some args) :
    adbArgs (readdressed request current).params = some (args.set 1 (.string current)) := by
  obtain ⟨item, hitem, -⟩ := Option.bind_eq_some_iff.mp hargs
  have hobject := Value.isObject_of_get? hitem
  rw [readdressed, if_pos hmethod, hargs]
  simp [adbArgs, Value.get?_set_self _ hobject, Value.asArray]

theorem readdressed_method (current : String) :
    (readdressed request current).method = request.method := by
  unfold readdressed
  split_ifs
  · split <;> rfl
  · rfl

theorem readdressed_id (current : String) : (readdressed request current).id = request.id := by
  unfold readdressed
  split_ifs
  · split <;> rfl
  · rfl

/-- A request for a device that is readdressed then addresses the new serial. -/
theorem addressedDevice_readdressed {deviceId : String} (current : String)
    (h : addressedDevice request.method request.params = some deviceId) :
    requestedDevice request = some deviceId ∧
      addressedDevice request.method (readdressed request current).params = some current := by
  unfold addressedDevice at h ⊢
  unfold requestedDevice
  split_ifs at h ⊢ with hadb hdevice
  · obtain ⟨args, hargs, hselector⟩ := Option.bind_eq_some_iff.mp h
    have hargs' := adbArgs_readdressed current hadb hargs
    rw [hargs, hargs']
    match args, hselector with
    | selector :: serial :: rest, hselector =>
      simp only [adbSelector] at hselector
      split_ifs at hselector with hs
      have hforwarded : adbSelector (selector :: .string current :: rest) = some current := by
        rw [adbSelector, if_pos hs]
        rfl
      exact ⟨hselector, hforwarded⟩
  · obtain ⟨item, hitem, -⟩ := Option.bind_eq_some_iff.mp h
    have hobject := Value.isObject_of_get? hitem
    refine ⟨h, ?_⟩
    rw [readdressed, if_neg hadb]
    simp [Value.get?_set_self _ hobject, Value.asStr]

/-- Resolving an alias only lists the ADB devices, and changes the request at most by replacing a
serial the session may use by one of the same identity. -/
theorem resolveRequestDeviceAlias_spec (H : CoreRequestHandler σ) (w : World σ) (d : Draws)
    (request : RemoteRequest) (session : AuthenticatedSession) :
    (∀ c ∈ (resolveRequestDeviceAlias H w d request session).2.1,
      c = ⟨.adbDevices, adbDevicesRequest⟩) ∧
    ((resolveRequestDeviceAlias H w d request session).2.2 = request ∨
      ∃ requested current, requestedDevice request = some requested ∧
        sameRemoteDeviceIdentity requested current = true ∧
        (resolveRequestDeviceAlias H w d request session).2.2 = readdressed request current) := by
  unfold resolveRequestDeviceAlias
  cases hrequested : requestedDevice request with
  | none => simp
  | some requested =>
    dsimp only
    split_ifs with haccess
    · simp only [currentAdbDeviceIds, call]
      split
      · simp
      · next current hcurrent =>
        have hsame := List.find?_some hcurrent
        exact ⟨by simp, Or.inr ⟨requested, current, rfl, hsame, rfl⟩⟩
    · simp

/-- What a forwarded request keeps of the one it came from. -/
structure Forwards (session : AuthenticatedSession) (request : RemoteRequest) (r : IpcRequest) :
    Prop where
  id : r.id = request.id
  method : r.method = request.method
  confined : Confined session r.method r.params
  sameDevice : ∀ deviceId, addressedDevice request.method request.params = some deviceId →
    ∃ forwarded, addressedDevice r.method r.params = some forwarded ∧
      sameRemoteDeviceIdentity deviceId forwarded = true

/-- The resolved request, once authorized, is a forward of the original. -/
theorem forwards_of_authorized
    (hauth : authorizeUserCoreRequest (resolveRequestDeviceAlias H w d request session).2.2
      session = .ok ()) :
    let r := (resolveRequestDeviceAlias H w d request session).2.2
    Forwards session request ⟨r.id, r.method, r.params⟩ := by
  intro r
  have hconfined := confined_of_authorized hauth
  rcases (resolveRequestDeviceAlias_spec H w d request session).2 with
    hsame | ⟨requested, current, hrequested, hidentity, hr⟩
  · have hr : r = request := hsame
    refine ⟨by rw [hr], by rw [hr], hconfined, ?_⟩
    intro deviceId haddressed
    exact ⟨deviceId, by rw [hr]; exact haddressed, sameRemoteDeviceIdentity_refl deviceId⟩
  · have hr : r = readdressed request current := hr
    have hmethod : r.method = request.method := by rw [hr, readdressed_method]
    refine ⟨by rw [hr, readdressed_id], hmethod, hconfined, ?_⟩
    intro deviceId haddressed
    obtain ⟨hdevice, hforwarded⟩ := addressedDevice_readdressed current haddressed
    rw [hrequested] at hdevice
    cases hdevice
    refine ⟨current, ?_, hidentity⟩
    show addressedDevice r.method r.params = some current
    rw [hmethod, hr]
    exact hforwarded

/-- A call a user's request may make: listing the ADB devices, or forwarding what is confined. -/
def UserCall (session : AuthenticatedSession) (request : RemoteRequest) (c : CoreCall) : Prop :=
  c = ⟨.adbDevices, adbDevicesRequest⟩ ∨
    c.origin = .forward ∧ Forwards session request c.request

theorem forwardTo_calls (request : RemoteRequest) (calls : List CoreCall) :
    ∀ c ∈ (forwardTo H w d request session calls).calls, c ∈ calls ∨
      c = ⟨.forward, ⟨request.id, request.method, request.params⟩⟩ ∨
      c = ⟨.adbDevices, adbDevicesRequest⟩ := by
  intro c hc
  simp only [forwardTo, currentAdbDeviceIds, call] at hc
  split at hc
  · simpa using hc
  · have hc' : c ∈ calls ∨ c = ⟨.forward, ⟨request.id, request.method, request.params⟩⟩ := by
      simpa using hc
    exact hc'.imp id Or.inl

theorem forwardCoreRequest_calls (hrole : session.role ≠ .admin) :
    ∀ c ∈ (forwardCoreRequest H w d request session).calls, UserCall session request c := by
  intro c hc
  obtain ⟨hlisting, -⟩ := resolveRequestDeviceAlias_spec H w d request session
  simp only [forwardCoreRequest, if_neg hrole] at hc
  split at hc
  · exact Or.inl (hlisting c hc)
  · next hauth =>
    rcases forwardTo_calls _ _ c hc with hc | hc | hc
    · exact Or.inl (hlisting c hc)
    · subst hc
      exact Or.inr ⟨rfl, forwards_of_authorized hauth⟩
    · exact Or.inl hc

theorem requireAdmin_user (hrole : session.role ≠ .admin) :
    requireAdmin session = .error permissionDenied := by
  rw [requireAdmin, if_neg hrole]

theorem reportDiagnostics_quiet : (reportDiagnostics w request session).world = w ∧
    (reportDiagnostics w request session).calls = [] ∧
    (reportDiagnostics w request session).servedAs = some session := by
  unfold reportDiagnostics
  split
  · exact ⟨rfl, rfl, rfl⟩
  · split_ifs <;> exact ⟨rfl, rfl, rfl⟩

/-- What holds of every way in which a session's request can be served holds of serving it. -/
theorem serve_branches (token : String) (M : Exchange σ → Prop)
    (hfail : ∀ e, M (fail w request (some session) e))
    (hme : M (me w request session)) (hlogout : M (logout w request session token))
    (hpassword : M (changePassword P w d request session))
    (hdiagnostics : M (reportDiagnostics w request session))
    (hlist : M (adminListUsers w request session))
    (hcreate : M (adminCreateUser P w d request session))
    (hdelete : M (adminDeleteUser P w d request session))
    (hreset : M (adminResetPassword P w d request session))
    (hassign : M (adminAssignDevice P H w d request session))
    (hforward : M (forwardCoreRequest H w d request session)) :
    M (serve P H w d request session token) := by
  unfold serve
  refine iteInduction (fun _ => hfail _) fun _ => ?_
  refine iteInduction (fun _ => hme) fun _ => ?_
  refine iteInduction (fun _ => hlogout) fun _ => ?_
  refine iteInduction (fun _ => hpassword) fun _ => ?_
  refine iteInduction (fun _ => hdiagnostics) fun _ => ?_
  refine iteInduction (fun _ => hlist) fun _ => ?_
  refine iteInduction (fun _ => hcreate) fun _ => ?_
  refine iteInduction (fun _ => hdelete) fun _ => ?_
  refine iteInduction (fun _ => hreset) fun _ => ?_
  exact iteInduction (fun _ => hassign) fun _ => hforward

/-- The same for a user's session: every administration request of it fails. -/
theorem user_serve_branches (token : String) (hrole : session.role ≠ .admin)
    (M : Exchange σ → Prop) (hfail : ∀ e, M (fail w request (some session) e))
    (hme : M (me w request session)) (hlogout : M (logout w request session token))
    (hpassword : M (changePassword P w d request session))
    (hdiagnostics : M (reportDiagnostics w request session))
    (hforward : M (forwardCoreRequest H w d request session)) :
    M (serve P H w d request session token) := by
  have refused := requireAdmin_user hrole
  apply serve_branches token M hfail hme hlogout hpassword hdiagnostics
  · rw [adminListUsers, refused]
    exact hfail _
  · rw [adminCreateUser, refused]
    exact hfail _
  · rw [adminDeleteUser, refused]
    exact hfail _
  · rw [adminResetPassword, refused]
    exact hfail _
  · rw [adminAssignDevice, refused]
    exact hfail _
  · exact hforward

/-- Of all methods of a user's session only the forwarded ones call the core. -/
theorem serve_calls (token : String) (hrole : session.role ≠ .admin) :
    ∀ c ∈ (serve P H w d request session token).calls, UserCall session request c := by
  have silent {x : Exchange σ} (hx : x.calls = []) : ∀ c ∈ x.calls, UserCall session request c := by
    rw [hx]
    simp
  apply user_serve_branches token hrole (fun x => ∀ c ∈ x.calls, UserCall session request c)
  · intro e
    exact silent rfl
  · exact silent rfl
  · exact silent rfl
  · apply silent
    unfold changePassword
    split <;> rfl
  · exact silent reportDiagnostics_quiet.2.1
  · exact forwardCoreRequest_calls hrole

theorem forwardCoreRequest_servedAs :
    (forwardCoreRequest H w d request session).servedAs = some session := by
  have forwarded (w : World σ) (request : RemoteRequest) (calls : List CoreCall) :
      (forwardTo H w d request session calls).servedAs = some session := by
    simp only [forwardTo]
    split <;> rfl
  unfold forwardCoreRequest
  split_ifs
  · exact forwarded _ _ _
  · simp only
    split
    · rfl
    · exact forwarded _ _ _

theorem serve_servedAs (token : String) :
    (serve P H w d request session token).servedAs = some session := by
  apply serve_branches token (fun x => x.servedAs = some session)
  · intro e
    rfl
  · rfl
  · rfl
  · unfold changePassword
    split <;> rfl
  · exact reportDiagnostics_quiet.2.2
  · unfold adminListUsers
    split <;> rfl
  · unfold adminCreateUser
    split
    · rfl
    · split <;> rfl
  · unfold adminDeleteUser
    split
    · rfl
    · split <;> rfl
  · unfold adminResetPassword
    split
    · rfl
    · split <;> rfl
  · unfold adminAssignDevice
    split
    · rfl
    · split
      · rfl
      · simp only
        split <;> rfl
  · exact forwardCoreRequest_servedAs

/-- A request is answered before any session serves it, without a call to the core, or served
with the session its token authenticates as. -/
theorem handleRequest_cases (P : Platform) (H : CoreRequestHandler σ) (w : World σ) (d : Draws)
    (request : RemoteRequest) :
    (handleRequest P H w d request).servedAs = none ∧
        (handleRequest P H w d request).calls = [] ∨
      ∃ token session, request.method ≠ "auth.login" ∧
        request.sessionToken = some token ∧
        (w.accounts.authenticate token).2 = .ok session ∧
        handleRequest P H w d request =
          serve P H { w with accounts := (w.accounts.authenticate token).1 } d request session
            token := by
  unfold handleRequest
  split_ifs with hlogin
  · refine Or.inl ?_
    unfold login
    split
    · exact ⟨rfl, rfl⟩
    · split_ifs <;> exact ⟨rfl, rfl⟩
  · split
    · exact Or.inl ⟨rfl, rfl⟩
    · next token htoken =>
      have hpresented := (Option.filter_eq_some_iff.mp htoken).1
      dsimp only
      split
      · exact Or.inl ⟨rfl, rfl⟩
      · next session hsession =>
        exact Or.inr ⟨token, session, hlogin, hpresented, hsession, rfl⟩

theorem user_calls (hserved : (handleRequest P H w d request).servedAs = some session)
    (hrole : session.role ≠ .admin) :
    ∀ c ∈ (handleRequest P H w d request).calls, UserCall session request c := by
  rcases handleRequest_cases P H w d request with ⟨hnone, -⟩ | ⟨token, s, -, -, -, hserve⟩
  · rw [hnone] at hserved
    cases hserved
  · rw [hserve] at hserved ⊢
    rw [serve_servedAs] at hserved
    cases hserved
    exact serve_calls token hrole

/-- Confinement: whatever a user's request asks, and whatever the core answers about ADB, the
service passes on only what is confined to the assigned devices, for the very device asked for. -/
theorem user_request_confined (P : Platform) (H : CoreRequestHandler σ) (w : World σ) (d : Draws)
    (request : RemoteRequest) (session : AuthenticatedSession)
    (hserved : (handleRequest P H w d request).servedAs = some session)
    (hrole : session.role ≠ .admin) :
    ∀ c ∈ (handleRequest P H w d request).calls, UserCall session request c :=
  user_calls hserved hrole

end RemoteControlService

/-- A core whose ADB sees one wireless handset. -/
def wirelessCore : CoreRequestHandler Unit := fun w _ request =>
  (w, .success request.id (.object [("stdout", .string
    "List of devices attached\nadb-R3CR70SJHHR-2VyQ5v (2)._adb-tls-connect._tcp device product:x\n")]))

/-- An account that holds the handset under the name it had before. -/
def alice : StoredAccount :=
  ⟨"alice", "$argon2id$wonderland", .user,
    (∅ : KeySet String).insert "adb-R3CR70SJHHR-2VyQ5v._adb-tls-connect._tcp", false, false⟩

def aliceManager : RemoteAccountManager :=
  { freshManager with
    database := { freshManager.database with
      users := freshManager.database.users.insert "alice" alice }
    sessions := (∅ : Keyed String SessionRecord).insert "t1" ⟨"alice", 1000⟩ }

/-- `adb shell ls` on a serial. -/
def shellParams (serial : String) : Value :=
  .object [("args", .array [.string "-s", .string serial, .string "shell", .string "ls"])]

def aliceShell : RemoteRequest :=
  ⟨"7", some "t1", "adb.exec", shellParams "adb-R3CR70SJHHR-2VyQ5v._adb-tls-connect._tcp"⟩

def aliceForward : CoreCall :=
  ⟨.forward,
    ⟨"7", "adb.exec", shellParams "adb-R3CR70SJHHR-2VyQ5v (2)._adb-tls-connect._tcp"⟩⟩

theorem user_request_confined_alias :
    (RemoteControlService.handleRequest freshPlatform wirelessCore ⟨aliceManager, ()⟩
      ⟨"t2", [], none⟩ aliceShell).calls =
        [⟨.adbDevices, RemoteControlService.adbDevicesRequest⟩, aliceForward] ∧
    RemoteControlService.UserCall (sessionFromUser "t1" alice) aliceShell aliceForward := by
  have hcalls : (RemoteControlService.handleRequest freshPlatform wirelessCore ⟨aliceManager, ()⟩
      ⟨"t2", [], none⟩ aliceShell).calls =
        [⟨.adbDevices, RemoteControlService.adbDevicesRequest⟩, aliceForward] := rfl
  refine ⟨hcalls, ?_⟩
  apply RemoteControlService.user_request_confined freshPlatform wirelessCore ⟨aliceManager, ()⟩
    ⟨"t2", [], none⟩ aliceShell
  · rfl
  · decide
  · rw [hcalls]
    simp

end AdbControl.Remote
