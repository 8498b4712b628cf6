import AdbControl.Server.RemoteHandlers

namespace AdbControl.Server

open Framework

theorem equivalentDeviceID_iff (left right : String) : equivalentDeviceID left right = true ↔
    left = right ∨ normalizedMDNSServiceIdentity left ≠ [] ∧
      normalizedMDNSServiceIdentity left = normalizedMDNSServiceIdentity right := by
  unfold equivalentDeviceID
  split_ifs with h
  · simp [h]
  · simp [h]

theorem equivalentDeviceID_symm {left right : String} (h : equivalentDeviceID left right = true) :
    equivalentDeviceID right left = true := by
  rw [equivalentDeviceID_iff] at h ⊢
  rcases h with rfl | ⟨hne, heq⟩
  · exact Or.inl rfl
  · exact Or.inr ⟨heq ▸ hne, heq.symm⟩

theorem equivalentDeviceID_trans {a b c : String} (hab : equivalentDeviceID a b = true)
    (hbc : equivalentDeviceID b c = true) : equivalentDeviceID a c = true := by
  rw [equivalentDeviceID_iff] at hab hbc ⊢
  rcases hab with rfl | ⟨hne, hab⟩
  · exact hbc
  · rcases hbc with rfl | ⟨-, hbc⟩
    · exact Or.inr ⟨hne, hab⟩
    · exact Or.inr ⟨hne, hab.trans hbc⟩

/-- What is resolved is online, and equivalent to what is asked for. -/
theorem resolveOnlineDeviceID_equivalent {output : Except AppError String} {requested resolved : String}
    (h : resolveOnlineDeviceID output requested = .ok resolved) :
    equivalentDeviceID requested resolved = true := by
  cases output with
  | error e => cases h
  | ok stdout =>
    cases hfind : (parseDevices stdout).find? (fun candidate =>
      candidate.state = "device" ∧ equivalentDeviceID requested candidate.id) with
    | none =>
      simp only [resolveOnlineDeviceID, bind, Except.bind, hfind] at h
      cases h
    | some candidate =>
      simp only [resolveOnlineDeviceID, bind, Except.bind, hfind] at h
      cases h
      have found := List.find?_some hfind
      simp only [decide_eq_true_eq] at found
      exact found.2

namespace DeviceService

open AdbControl.Server.DeviceAction (deviceArgs Fallback)

/-- The effect names this device and no other: as the serial of adb, as the device of a call to
Core, if it is about one, or to the hardware monitor. -/
def Effect.Aimed (deviceID : String) : Effect → Prop
  | .device (.adb args) => ∃ rest, args = deviceArgs deviceID rest
  | .device (.invoke id _ _ _) => id = deviceID
  | .call _ params => ∀ param ∈ params, param.1 = "deviceId" → param.2 = .string deviceID
  | .startMonitor id _ => id = deviceID
  | .stopMonitor id => id = deviceID
  | .monitorStatus id => id = deviceID

variable {env : ServiceEnv} {deviceID : String}

def Effect.args? : Effect → Option (List String)
  | .device e => e.args?
  | _ => none

theorem eq_of_args {e : Effect} {args : List String} (h : e.args? = some args) :
    e = .device (.adb args) := by
  cases e with
  | device e =>
    cases e with
    | adb args' => rw [Option.some.inj h]
    | invoke => cases h
  | _ => cases h

/-- `adb devices -l`. -/
def Effect.listing : Effect := .device (.adb ["devices", "-l"])

/-- The hardware id of a device is read. -/
def Effect.identityRead (deviceID : String) : Effect :=
  .device (.adb (deviceArgs deviceID ["shell", hardwareIDCommand]))

section Aimed

theorem sends_exec {P : Effect → Prop} {args : List String} (h : P (.device (.adb args))) :
    Sends P (exec env args) := by
  apply @sends_within _ _ _ (fun e => e = .adb args)
  · intro sent
    exact DeviceAction.sends_exec rfl
  · rintro e rfl
    exact h

theorem aims_exec (args : List String) :
    Sends (Effect.Aimed deviceID) (exec env (deviceArgs deviceID args)) := sends_exec ⟨args, rfl⟩

theorem aimed_fallback (e : DeviceAction.Effect) (h : Fallback deviceID e) :
    (Effect.device e).Aimed deviceID := by
  cases e with
  | adb args =>
    obtain ⟨word, words, command, hargs, -⟩ := h
    exact ⟨_, hargs⟩
  | invoke => cases h

theorem aims_call {method : String} {params : List (String × Value)}
    (h : (Effect.call method params).Aimed deviceID) :
    Sends (Effect.Aimed deviceID) (call env method params) := by
  apply sends_bind (sends_send h)
  intro _
  apply sends_bind sends_get
  intro sent
  exact sends_pure _

theorem aimed_nil (method : String) : (Effect.call method []).Aimed deviceID := by
  intro param hparam
  exact (List.not_mem_nil hparam).elim

theorem aimed_invoke (capabilityID operation : String) (args : Value) :
    (Effect.call "device.invoke" (invokeParams deviceID capabilityID operation args)).Aimed
      deviceID := by
  intro param hparam hname
  simp only [invokeParams, List.mem_cons, List.not_mem_nil, or_false] at hparam
  rcases hparam with rfl | rfl | rfl | rfl
  · rfl
  · simp at hname
  · simp at hname
  · simp at hname

theorem aims_callObject {method : String} {params : List (String × Value)}
    (h : (Effect.call method params).Aimed deviceID) :
    Sends (Effect.Aimed deviceID) (callObject env method params) := by
  apply sends_bind (aims_call h)
  intro answer
  cases answer with
  | error e => exact sends_pure _
  | ok answer => exact sends_pure _

theorem aims_callObjects (method : String) :
    Sends (Effect.Aimed deviceID) (callObjects env method deviceID) := by
  apply sends_bind
  · apply aims_call
    intro param hparam _
    rw [List.mem_singleton.mp hparam]
  · intro answer
    cases answer with
    | error e => exact sends_pure _
    | ok answer => exact sends_pure _

theorem aims_probeCompanionPackage :
    Sends (Effect.Aimed deviceID) (probeCompanionPackage env deviceID) :=
  sends_within (fun _ => DeviceAction.sends_probeCompanionPackage) aimed_fallback

theorem aims_ensureConfiguredCompanion :
    Sends (Effect.Aimed deviceID) (ensureConfiguredCompanion env deviceID) :=
  sends_within (fun _ => DeviceAction.sends_ensureConfiguredCompanion) aimed_fallback

theorem aims_executeCompanionCommand (capabilityID operation : String) (args : Value) :
    Sends (Effect.Aimed deviceID)
      (executeCompanionCommand env deviceID capabilityID operation args) := by
  apply sends_ite
  · intro _
    exact sends_pure _
  · intro _
    apply sends_bind sends_get
    intro sent
    apply sends_bind (aims_exec _)
    intro asked
    cases asked with
    | error e => exact sends_pure _
    | ok output =>
      apply sends_bind
      · apply sends_within
        · intro _
          exact DeviceAction.sends_readResult (DeviceAction.isPlain_randomRequestID _ _) none 30
        · exact aimed_fallback
      · intro payload
        cases payload with
        | error e => exact sends_pure _
        | ok payload =>
          dsimp only
          split
          · exact sends_pure _
          · exact sends_pure _

theorem aims_executeEnsuredCommand (capabilityID operation : String) (args : Value) :
    Sends (Effect.Aimed deviceID)
      (executeEnsuredCommand env deviceID capabilityID operation args) := by
  apply sends_bind aims_ensureConfiguredCompanion
  intro ensured
  cases ensured with
  | error e => exact sends_pure _
  | ok u => exact aims_executeCompanionCommand _ _ _

theorem aims_provisionCompanionQUICIfDue :
    Sends (Effect.Aimed deviceID) (provisionCompanionQUICIfDue env deviceID) := by
  have provision : Sends (Effect.Aimed deviceID) (provisionCompanionQUIC env deviceID) := by
    apply sends_bind (aims_callObject (aimed_nil _))
    intro answer
    cases answer with
    | error e => exact sends_pure _
    | ok answer =>
      dsimp only
      split
      · exact sends_pure _
      · split
        · exact sends_pure _
        · apply sends_bind (aims_exec _)
          intro configured
          cases configured with
          | error e => exact sends_pure _
          | ok output => exact sends_pure _
  apply sends_bind sends_get
  intro sent
  apply sends_ite
  · intro _
    exact sends_pure _
  · intro _
    apply sends_bind provision
    intro provisioned
    cases provisioned with
    | error e => exact sends_pure _
    | ok u => exact sends_pure _

theorem aims_pollCompanionQUIC (left : Nat) :
    Sends (Effect.Aimed deviceID) (pollCompanionQUIC env deviceID left) := by
  induction left with
  | zero => exact sends_pure _
  | succ left ih =>
    apply sends_bind (aims_callObjects _)
    intro answer
    cases answer with
    | ok capabilities => exact sends_ite (fun _ => sends_pure _) (fun _ => ih)
    | error e => exact sends_ite (fun _ => ih) (fun _ => sends_pure _)

theorem aims_waitForCompanionQUIC :
    Sends (Effect.Aimed deviceID) (waitForCompanionQUIC env deviceID) := by
  apply sends_bind sends_get
  intro sent
  exact aims_pollCompanionQUIC _

theorem aims_connectCompanionQUICIfPossible :
    Sends (Effect.Aimed deviceID) (connectCompanionQUICIfPossible env deviceID) := by
  apply sends_bind aims_provisionCompanionQUICIfDue
  intro configured
  cases configured with
  | error e => exact sends_pure _
  | ok configured => exact sends_ite (fun _ => aims_waitForCompanionQUIC) (fun _ => sends_pure _)

theorem aims_companionQUICCatalogReady :
    Sends (Effect.Aimed deviceID) (companionQUICCatalogReady env deviceID) := by
  apply sends_bind (aims_callObjects _)
  intro answer
  cases answer with
  | error e => exact sends_pure _
  | ok capabilities => exact sends_pure _

theorem aims_staticCapabilities : Sends (Effect.Aimed deviceID) (staticCapabilities env) := by
  apply sends_bind (aims_call (aimed_nil _))
  intro answer
  cases answer with
  | error e => exact sends_pure _
  | ok answer => exact sends_pure _

theorem aims_companionCapabilities :
    Sends (Effect.Aimed deviceID) (companionCapabilities env deviceID) := by
  have connected : Sends (Effect.Aimed deviceID) (capabilitiesAfterConnect env deviceID) := by
    apply sends_bind aims_connectCompanionQUICIfPossible
    intro connected
    apply sends_ite
    · intro _
      apply sends_bind (aims_callObjects _)
      intro answer
      cases answer with
      | error e => exact aims_staticCapabilities
      | ok capabilities => exact sends_ite (fun _ => sends_pure _) (fun _ => aims_staticCapabilities)
    · intro _
      exact aims_staticCapabilities
  apply sends_bind aims_ensureConfiguredCompanion
  intro ensured
  cases ensured with
  | error e => exact sends_pure _
  | ok u =>
    apply sends_bind (aims_callObjects _)
    intro answer
    cases answer with
    | ok capabilities => exact sends_ite (fun _ => sends_pure _) (fun _ => connected)
    | error e => exact sends_ite (fun _ => connected) (fun _ => sends_pure _)

theorem aims_companionPermissions :
    Sends (Effect.Aimed deviceID) (companionPermissions env deviceID) := by
  have connected : Sends (Effect.Aimed deviceID) (permissionsAfterConnect env deviceID) := by
    apply sends_bind aims_connectCompanionQUICIfPossible
    intro connected
    apply sends_ite
    · intro _
      apply sends_bind (aims_callObjects _)
      intro answer
      cases answer with
      | error e => exact sends_pure _
      | ok permissions =>
        apply sends_bind aims_companionQUICCatalogReady
        intro ready
        exact sends_ite (fun _ => sends_pure _) (fun _ => sends_pure _)
    · intro _
      exact sends_pure _
  apply sends_bind aims_ensureConfiguredCompanion
  intro ensured
  cases ensured with
  | error e => exact sends_pure _
  | ok u =>
    apply sends_bind (aims_callObjects _)
    intro answer
    cases answer with
    | ok permissions =>
      apply sends_bind aims_companionQUICCatalogReady
      intro ready
      exact sends_ite (fun _ => sends_pure _) (fun _ => connected)
    | error e => exact sends_ite (fun _ => connected) (fun _ => sends_pure _)

theorem aims_invokeCompanionCapability (capabilityID operation : String) (args : Value) :
    Sends (Effect.Aimed deviceID)
      (invokeCompanionCapability env deviceID capabilityID operation args) := by
  have broadcast : Sends (Effect.Aimed deviceID)
      (broadcastCapability env deviceID capabilityID operation args) := by
    apply sends_bind (aims_executeCompanionCommand _ _ _)
    intro payload
    cases payload with
    | error e => exact sends_pure _
    | ok payload =>
      apply sends_bind sends_get
      intro sent
      split
      · exact sends_pure _
      · exact sends_pure _
      · exact sends_pure _
  apply sends_bind aims_ensureConfiguredCompanion
  intro ensured
  cases ensured with
  | error e => exact sends_pure _
  | ok u =>
    apply sends_bind (aims_callObject (aimed_invoke _ _ _))
    intro answer
    cases answer with
    | ok result => exact sends_pure _
    | error e =>
      apply sends_ite
      · intro _
        exact sends_pure _
      · intro _
        apply sends_bind aims_connectCompanionQUICIfPossible
        intro connected
        apply sends_ite
        · intro _
          apply sends_bind (aims_callObject (aimed_invoke _ _ _))
          intro again
          cases again with
          | ok result => exact sends_pure _
          | error e => exact broadcast
        · intro _
          exact broadcast

theorem aims_companionStatus :
    Sends (Effect.Aimed deviceID) (companionStatus env deviceID) := by
  have provisioned : Sends (Effect.Aimed deviceID) (provisionedStatus env deviceID) := by
    apply sends_bind aims_provisionCompanionQUICIfDue
    intro configured
    cases configured with
    | error e => exact sends_pure _
    | ok configured =>
      apply sends_ite
      · intro _
        exact sends_pure _
      · intro _
        exact sends_bind aims_waitForCompanionQUIC (fun _ => sends_pure _)
  apply sends_bind aims_probeCompanionPackage
  intro probed
  match probed with
  | .error e => exact sends_pure _
  | .ok none => exact sends_pure _
  | .ok (some installed) =>
    apply sends_bind sends_get
    intro sent
    apply sends_ite
    · intro _
      exact sends_pure _
    · intro _
      apply sends_bind (aims_executeCompanionCommand _ _ _)
      intro payload
      cases payload with
      | error e => exact sends_pure _
      | ok payload =>
        apply sends_bind (aims_callObjects _)
        intro answer
        cases answer with
        | ok capabilities => exact sends_ite (fun _ => sends_pure _) (fun _ => provisioned)
        | error e => exact sends_ite (fun _ => provisioned) (fun _ => sends_pure _)

theorem aims_packages : Sends (Effect.Aimed deviceID) (packages env deviceID) := by
  have pages (left : List (List String)) : Sends (Effect.Aimed deviceID) (applyPages env deviceID left) := by
    induction left with
    | nil => exact sends_pure _
    | cons page left ih =>
      apply sends_bind (aims_executeEnsuredCommand _ _ _)
      intro payload
      cases payload with
      | error e => exact sends_pure _
      | ok payload => exact sends_ite (fun _ => ih) (fun _ => sends_pure _)
  apply sends_bind (aims_exec _)
  intro listed
  cases listed with
  | error e => exact sends_pure _
  | ok output =>
    apply sends_bind (aims_exec _)
    intro _
    exact sends_bind (pages _) (fun _ => sends_pure _)

theorem aims_screenshotWithSource :
    Sends (Effect.Aimed deviceID) (screenshotWithSource env deviceID) := by
  have capture : Sends (Effect.Aimed deviceID) (captureScreen env deviceID) := by
    apply sends_bind (aims_exec _)
    intro captured
    cases captured with
    | error e => exact sends_pure _
    | ok output => exact sends_pure _
  apply sends_bind sends_get
  intro sent
  apply sends_ite
  · intro _
    exact sends_pure _
  · intro _
    split
    · exact sends_pure _
    · apply sends_ite
      · intro _
        apply sends_bind (aims_callObject (aimed_invoke _ _ _))
        intro answer
        cases answer with
        | error e => exact capture
        | ok envelope => exact sends_ite (fun _ => sends_pure _) (fun _ => capture)
      · intro _
        exact capture

theorem aims_screenControlTransport :
    Sends (Effect.Aimed deviceID) (screenControlTransport env deviceID) := by
  apply sends_bind (aims_exec _)
  intro answer
  cases answer with
  | ok output => exact sends_pure _
  | error e => exact sends_bind sends_get (fun _ => sends_pure _)

theorem aims_close (session : ScrcpySession) :
    Sends (Effect.Aimed session.deviceID) (session.close env) := by
  apply sends_bind
  · apply aims_call
    intro param hparam hname
    rw [List.mem_singleton.mp hparam] at hname
    simp at hname
  · intro _
    exact sends_bind (aims_exec _) (fun _ => sends_pure _)

theorem aims_openScrcpy (apkPath : String) (scid : UInt32) (options : ScrcpyOptions) :
    Sends (Effect.Aimed deviceID) (openScrcpy env deviceID apkPath scid options) := by
  apply sends_bind (aims_exec _)
  intro forward
  cases forward with
  | error e => exact sends_pure _
  | ok forward =>
    dsimp only
    split
    · exact sends_pure _
    · apply sends_bind
      · apply aims_call
        intro param hparam hname
        simp only [scrcpyStartParams, List.mem_cons, List.not_mem_nil, or_false] at hparam
        rcases hparam with rfl | rfl | rfl | rfl | rfl | rfl | rfl <;> simp at hname ⊢
      · intro started
        cases started with
        | error e => exact sends_bind (aims_exec _) (fun _ => sends_pure _)
        | ok answer =>
          apply sends_bind sends_get
          intro sent
          split
          · exact sends_bind (aims_close ⟨deviceID, _, _⟩) (fun _ => sends_pure _)
          · exact sends_pure _

theorem aims_startScrcpy (options : ScrcpyOptions) :
    Sends (Effect.Aimed deviceID) (startScrcpy env deviceID options) := by
  apply sends_bind
  · apply sends_bind (aims_exec _)
    intro output
    cases output with
    | error e => exact sends_pure _
    | ok output => exact sends_pure _
  · intro apkPath
    cases apkPath with
    | error e => exact sends_pure _
    | ok apkPath =>
      apply sends_bind sends_get
      intro sent
      split
      · exact sends_pure _
      · exact aims_openScrcpy _ _ _

/-- A session is of the device that it is opened for. -/
theorem gives_startScrcpy (options : ScrcpyOptions) :
    Gives (fun answer => ∀ session, answer = .ok session → session.deviceID = deviceID)
      (startScrcpy env deviceID options) := by
  unfold startScrcpy
  refine gives_bind (gives_any _) ?_
  intro apkPath _
  cases apkPath with
  | error e => exact gives_pure nofun
  | ok apkPath =>
    refine gives_bind (gives_any _) ?_
    intro sent _
    split
    · exact gives_pure nofun
    · refine gives_bind (gives_any _) ?_
      intro forward _
      cases forward with
      | error e => exact gives_pure nofun
      | ok forward =>
        dsimp only
        split
        · exact gives_pure nofun
        · refine gives_bind (gives_any _) ?_
          intro started _
          cases started with
          | error e => exact gives_bind (gives_any _) (fun _ _ => gives_pure nofun)
          | ok answer =>
            refine gives_bind (gives_any _) ?_
            intro sent _
            split
            · exact gives_bind (gives_any _) (fun _ _ => gives_pure nofun)
            · apply gives_pure
              rintro session ⟨rfl⟩
              rfl

end Aimed

section Resolving

theorem sends_resolveOnline (requested : String) :
    Sends (fun e => e = Effect.listing) (resolveOnline env requested) := by
  apply sends_bind
  · exact sends_exec rfl
  · intro answer
    cases answer with
    | error e => exact sends_pure _
    | ok output =>
      dsimp only
      split
      · exact sends_pure _
      · exact sends_pure _

theorem gives_resolveOnline (requested : String) :
    Gives (fun answer => ∀ resolved, answer = .ok resolved →
      equivalentDeviceID requested resolved = true) (resolveOnline env requested) := by
  refine gives_bind (gives_any _) ?_
  intro answer _
  cases answer with
  | error e => exact gives_pure nofun
  | ok output =>
    dsimp only
    split
    · exact gives_pure nofun
    · rename_i resolved hresolved
      apply gives_pure
      rintro _ ⟨rfl⟩
      exact resolveOnlineDeviceID_equivalent hresolved

theorem sends_readHardwareID (deviceID : String) :
    Sends (fun e => e = .identityRead deviceID) (readHardwareID env deviceID) := by
  apply sends_bind
  · exact sends_exec rfl
  · intro answer
    cases answer with
    | error e => exact sends_pure _
    | ok output => exact sends_pure _

/-- The hardware id is read of the devices that are online. -/
theorem sends_attachIdentity (devices : List Device) :
    Sends (fun e => ∃ device ∈ devices, device.state = "device" ∧ e = .identityRead device.id)
      (attachIdentity env devices) := by
  induction devices with
  | nil => exact sends_pure _
  | cons candidate rest ih =>
    rw [attachIdentity]
    apply sends_bind
    · unfold identify
      apply sends_ite
      · intro honline
        apply sends_bind
        · apply (sends_readHardwareID candidate.id).mono
          rintro e rfl
          exact ⟨candidate, List.mem_cons_self, honline, rfl⟩
        · intro answer
          cases answer with
          | error e => exact sends_pure _
          | ok output => exact sends_pure _
      · intro _
        exact sends_pure _
    · intro read
      refine sends_bind (ih.mono ?_) (fun _ => sends_pure _)
      rintro e ⟨device, hdevice, hread⟩
      exact ⟨device, List.mem_cons_of_mem _ hdevice, hread⟩

/-- What adb lists, when it is asked first of all. -/
def listed (env : ServiceEnv) : List Device :=
  match ((exec env ["devices", "-l"]).run []).1 with
  | .error _ => []
  | .ok output => parseDevices output.stdout

end Resolving

end DeviceService

namespace RemoteHandlers

open AdbControl.Server.DeviceService (Effect ServiceEnv)

variable {env : ServiceEnv} {request : Request}

/-- The device is assigned to the session of the request, under the same serial or an equivalent one. -/
def Request.Permits (request : Request) (deviceID : String) : Prop :=
  ∃ session, request.session = some session ∧
    ∃ assigned ∈ session.devices, equivalentDeviceID assigned deviceID = true

theorem allowed_iff (request : Request) : request.allowed = true ↔ request.Permits request.id := by
  unfold Request.allowed Request.Permits RemoteSession.canAccessDevice
  cases request.session with
  | none => simp
  | some session => simp

theorem Request.Permits.equivalent {deviceID other : String} (h : request.Permits deviceID)
    (heq : equivalentDeviceID deviceID other = true) : request.Permits other := by
  obtain ⟨session, hsession, assigned, hassigned, hid⟩ := h
  exact ⟨session, hsession, assigned, hassigned, equivalentDeviceID_trans hid heq⟩

/-- Adb is asked what devices there are, or what is done is aimed at a device of the session. -/
def Confined (request : Request) (e : Effect) : Prop :=
  e = .listing ∨ ∃ deviceID, e.Aimed deviceID ∧ request.Permits deviceID

theorem aims_gateway {α : Type} {deviceID : String}
    {served : Sending Effect (Except DeviceAction.Failure α)}
    (h : Sends (Effect.Aimed deviceID) served) : Sends (Effect.Aimed deviceID) (gateway served) := by
  apply sends_bind h
  intro answer
  cases answer with
  | error e => exact sends_pure _
  | ok a => exact sends_pure _

theorem aims_serveScreenSocket (request : Request) :
    Sends (Effect.Aimed request.id) (serveScreenSocket env request) := by
  apply sends_ite
  · intro _
    exact sends_pure _
  · intro _
    apply sends_bind DeviceService.aims_screenControlTransport
    intro _
    apply sends_bind_of (DeviceService.aims_startScrcpy _) (DeviceService.gives_startScrcpy _)
    intro answer hsession
    cases answer with
    | error e => exact sends_pure _
    | ok session =>
      have close : Sends (Effect.Aimed request.id) (session.close env) :=
        hsession session rfl ▸ DeviceService.aims_close session
      exact sends_bind close (fun _ => sends_pure _)

theorem aims_monitor {deviceID : String} {e : Effect} (h : e.Aimed deviceID) (response : Response) :
    Sends (Effect.Aimed deviceID) (do send e; pure response) :=
  sends_bind (sends_send h) (fun _ => sends_pure _)

theorem aims_startHardwareMonitor (request : Request) :
    Sends (Effect.Aimed request.id) (startHardwareMonitor request) := by
  have aimed (metrics : List String) :
      (Effect.startMonitor request.id metrics).Aimed request.id := rfl
  unfold startHardwareMonitor
  split
  · exact sends_pure _
  · exact aims_monitor (aimed _) _

theorem aims_invokeCapability (request : Request) :
    Sends (Effect.Aimed request.id) (invokeCapability env request) := by
  unfold invokeCapability
  split
  · exact sends_pure _
  · exact aims_gateway (DeviceService.aims_invokeCompanionCapability _ _ _)

/-- A request that comes through asks for the device that is online now. -/
theorem gives_requireRemoteDevice (request : Request) :
    Gives (fun answer => ∀ required, answer = .ok required → required.session = request.session ∧
      request.Permits required.id) (requireRemoteDevice env request) := by
  unfold requireRemoteDevice
  split
  · exact gives_pure nofun
  · rename_i hallowed
    have permits : request.Permits request.id := (allowed_iff request).mp (by simpa using hallowed)
    refine gives_bind (DeviceService.gives_resolveOnline request.id) ?_
    intro answer hanswer
    cases answer with
    | error e => exact gives_pure nofun
    | ok resolved =>
      apply gives_pure
      rintro _ ⟨rfl⟩
      exact ⟨rfl, permits.equivalent (hanswer resolved rfl)⟩

theorem sends_requireRemoteDevice (request : Request) :
    Sends (fun e => e = Effect.listing) (requireRemoteDevice env request) := by
  apply sends_ite
  · intro _
    exact sends_pure _
  · intro _
    apply sends_bind (DeviceService.sends_resolveOnline _)
    intro answer
    cases answer with
    | error e => exact sends_pure _
    | ok resolved => exact sends_pure _

/-- What is aimed at the path value alone stays with the devices of the session. -/
theorem behindDevice_confined {shared : Request → Serving}
    (hshared : ∀ request, Sends (Effect.Aimed request.id) (shared request)) (request : Request) :
    Sends (Confined request) (behindDevice env shared request) := by
  apply sends_bind_of
  · exact (sends_requireRemoteDevice request).mono fun e he => Or.inl he
  · exact gives_requireRemoteDevice request
  · intro answer hanswer
    cases answer with
    | error refusal => exact sends_pure _
    | ok required =>
      obtain ⟨-, permits⟩ := hanswer required rfl
      exact (hshared required).mono fun e he => Or.inr ⟨required.id, he, permits⟩

/-- The hardware id of a device that adb lists as online is read. -/
def ReadsIdentity (env : ServiceEnv) (e : Effect) : Prop :=
  ∃ device ∈ DeviceService.listed env, device.state = "device" ∧ e = .identityRead device.id

theorem listLive_reads {e : Effect} (h : e ∈ ((DeviceService.listLive env).run []).2) :
    e = .listing ∨ ReadsIdentity env e := by
  have read : e ∈ ((DeviceService.exec env ["devices", "-l"]).run []).2 ∨ ReadsIdentity env e := by
    apply mem_run_bind _ h
    unfold ReadsIdentity DeviceService.listed
    cases ((DeviceService.exec env ["devices", "-l"]).run []).1 with
    | error failure => exact sends_pure _
    | ok output => exact sends_bind (DeviceService.sends_attachIdentity _) (fun _ => sends_pure _)
  rcases read with hlisting | hread
  · have asked : Sends (fun e => e = Effect.listing) (DeviceService.exec env ["devices", "-l"]) :=
      DeviceService.sends_exec rfl
    exact Or.inl (asked.mem hlisting)
  · exact Or.inr hread

theorem gives_remoteDeviceMetadata (request : Request) :
    Gives (fun response => ∀ card, response = .card card → ∃ id ∈ card.ids, request.Permits id)
      (remoteDeviceMetadata env request) := by
  unfold remoteDeviceMetadata
  split
  · exact gives_pure nofun
  · rename_i hallowed
    have permits : request.Permits request.id := (allowed_iff request).mp (by simpa using hallowed)
    refine gives_bind (gives_any _) ?_
    intro answer _
    cases answer with
    | error e => exact gives_pure nofun
    | ok devices =>
      dsimp only
      split
      · exact gives_pure nofun
      · rename_i candidate hfind
        apply gives_pure
        rintro _ ⟨rfl⟩
        have found : isRequested request.id candidate = true := List.find?_some hfind
        obtain ⟨id, hid, hrequested⟩ := List.any_eq_true.mp found
        refine ⟨id, hid, ?_⟩
        rcases (Bool.or_eq_true _ _).mp hrequested with hsame | hequivalent
        · rw [eq_of_beq hsame]
          exact permits
        · exact permits.equivalent (equivalentDeviceID_symm hequivalent)

theorem remoteDeviceMetadata_reads (request : Request) {e : Effect}
    (h : e ∈ ((remoteDeviceMetadata env request).run []).2) :
    e = .listing ∨ ReadsIdentity env e := by
  unfold remoteDeviceMetadata at h
  split at h
  · exact (List.not_mem_nil h).elim
  · -- what follows the look at the live devices passes nothing on
    have hlist : e ∈ ((DeviceService.list env).run []).2 ∨ False := by
      refine mem_run_bind (P := fun _ => False) ?_ h
      cases ((DeviceService.list env).run []).1 with
      | error failure => exact sends_pure _
      | ok devices =>
        dsimp only
        split
        · exact sends_pure _
        · exact sends_pure _
    have hlive : e ∈ ((DeviceService.listLive env).run []).2 ∨ False := by
      refine mem_run_bind (P := fun _ => False) ?_ (hlist.resolve_right id)
      cases ((DeviceService.listLive env).run []).1 with
      | error failure => exact sends_pure _
      | ok live =>
        apply sends_bind sends_get
        intro sent
        split
        · exact sends_pure _
        · exact sends_pure _
    exact listLive_reads (hlive.resolve_right id)

/-- Nothing is done for a request that asks for another device. -/
theorem serve_forbidden (handler : RemoteHandler) (h : ¬request.Permits request.id) :
    (handler.serve env request).run [] = (.forbidden, []) := by
  have refused : request.allowed = false := by
    rw [← allowed_iff] at h
    simpa using h
  have behind (shared : Request → Serving) :
      (behindDevice env shared request).run [] = (.forbidden, []) := by
    unfold behindDevice requireRemoteDevice
    rw [refused]
    rfl
  cases handler with
  | remoteDeviceMetadata =>
    show (remoteDeviceMetadata env request).run [] = _
    unfold remoteDeviceMetadata
    rw [refused]
    rfl
  | _ => exact behind _

/-- Every other handler is a shared one behind the check, and names no device but the path value. -/
theorem serve_behind {handler : RemoteHandler} (h : handler ≠ .remoteDeviceMetadata) :
    ∃ shared : Request → Serving, (∀ request, Sends (Effect.Aimed request.id) (shared request)) ∧
      ∀ request, handler.serve env request = behindDevice env shared request := by
  cases handler with
  | remoteScreenSocket => exact ⟨_, aims_serveScreenSocket, fun _ => rfl⟩
  | remoteDeviceMetadata => exact (h rfl).elim
  | remotePackages => exact ⟨_, fun _ => aims_gateway DeviceService.aims_packages, fun _ => rfl⟩
  | remoteScreenshot =>
    exact ⟨_, fun _ => aims_gateway DeviceService.aims_screenshotWithSource, fun _ => rfl⟩
  | remoteHardwareMonitorStatus =>
    exact ⟨_, fun request => @aims_monitor request.id (.monitorStatus request.id) rfl _, fun _ => rfl⟩
  | remoteStartHardwareMonitor => exact ⟨_, aims_startHardwareMonitor, fun _ => rfl⟩
  | remoteStopHardwareMonitor =>
    exact ⟨_, fun request => @aims_monitor request.id (.stopMonitor request.id) rfl _, fun _ => rfl⟩
  | remoteCompanionStatus =>
    exact ⟨_, fun _ => aims_gateway DeviceService.aims_companionStatus, fun _ => rfl⟩
  | remoteCapabilities =>
    exact ⟨_, fun _ => aims_gateway DeviceService.aims_companionCapabilities, fun _ => rfl⟩
  | remotePermissions =>
    exact ⟨_, fun _ => aims_gateway DeviceService.aims_companionPermissions, fun _ => rfl⟩
  | remoteInvokeCapability => exact ⟨_, aims_invokeCapability, fun _ => rfl⟩

/-- A device that is not online is not reached: adb is asked what devices there are, and no more. -/
theorem behindDevice_offline {shared : Request → Serving} (hallowed : request.allowed = true)
    {e : DeviceAction.Failure}
    (hresolve : ((DeviceService.resolveOnline env request.id).run []).1 = .error e) :
    ((behindDevice env shared request).run []).1 = .failed 502 e ∧
      ∀ e ∈ ((behindDevice env shared request).run []).2, e = .listing := by
  have asked : ∀ e ∈ ((DeviceService.resolveOnline env request.id).run []).2, e = .listing :=
    fun _ => (DeviceService.sends_resolveOnline request.id).mem
  have served : (behindDevice env shared request).run [] =
      (.failed 502 e, ((DeviceService.resolveOnline env request.id).run []).2) := by
    cases hrun : (DeviceService.resolveOnline env request.id).run [] with
    | mk answer sent =>
      rw [hrun] at hresolve
      obtain rfl : answer = .error e := hresolve
      simp only [behindDevice, requireRemoteDevice, hallowed, Bool.not_true, Bool.false_eq_true,
        if_false, StateT.run_bind, hrun]
      rfl
  rw [served]
  exact ⟨rfl, asked⟩

/-- What a remote handler passes on is aimed at a device of the session, apart from the question what
devices there are; the metadata handler reads the hardware ids of all that are online, and its card
is of a device of the session. A request for another device comes to nothing, and one for a device
that is not online to no more than that question. -/
theorem remote_confined (env : ServiceEnv) (request : Request) (handler : RemoteHandler) :
    (handler ≠ .remoteDeviceMetadata →
      ∀ e ∈ ((handler.serve env request).run []).2, Confined request e) ∧
    (handler = .remoteDeviceMetadata →
      (∀ e ∈ ((handler.serve env request).run []).2, e = .listing ∨ ReadsIdentity env e) ∧
      ∀ card, ((handler.serve env request).run []).1 = .card card →
        ∃ id ∈ card.ids, request.Permits id) ∧
    (¬request.Permits request.id → (handler.serve env request).run [] = (.forbidden, [])) ∧
    (handler ≠ .remoteDeviceMetadata → request.Permits request.id →
      ∀ e, ((DeviceService.resolveOnline env request.id).run []).1 = .error e →
        ((handler.serve env request).run []).1 = .failed 502 e ∧
          ∀ e ∈ ((handler.serve env request).run []).2, e = .listing) := by
  refine ⟨?_, ?_, serve_forbidden handler, ?_⟩
  · intro hother e he
    obtain ⟨shared, hshared, hserve⟩ := @serve_behind env handler hother
    rw [hserve] at he
    exact (behindDevice_confined hshared request).mem he
  · rintro rfl
    exact ⟨fun e => remoteDeviceMetadata_reads request, gives_remoteDeviceMetadata request []⟩
  · intro hother permits e hresolve
    obtain ⟨shared, -, hserve⟩ := @serve_behind env handler hother
    rw [hserve]
    exact behindDevice_offline ((allowed_iff request).mpr permits) hresolve

/-- A phone and a tablet are online; every other command prints nothing. -/
def bothOnline : DeviceAction.DeviceEnv where
  exec := fun sent =>
    if sent.getLast?.bind DeviceAction.Effect.args? = some ["devices", "-l"] then
      .ok ⟨0, "List of devices attached\nphone device\ntablet device\n", ""⟩
    else .ok ⟨0, "", ""⟩
  invoke := fun _ => .error .cancelled
  cancelled := fun _ => false
  inputTransport := fun _ => none
  buffer := fun _ => none
  stamp := fun _ => []
  requirement := none
  packageInfo := fun _ => none
  toLower := Char.toLower
  parse := fun _ => none

def bothOnlineEnv : ServiceEnv where
  device := fun _ => bothOnline
  call := fun _ => .error .cancelled
  catalog := fun _ => (.newMemoryCatalog, ⟨true, true, true, true, true⟩)
  screenshots := fun _ _ => ⟨false, none, false⟩
  provisionedRecently := fun _ _ => false
  ticks := fun _ => 0
  scrcpyRandom := fun _ => none
  connectScrcpy := fun _ _ => .error .cancelled
  companionPublicHost := ""
  splitHostPort := fun _ => none
  parseIP := fun _ => none
  routeLocalAddress := fun _ => none
  toLower := Char.toLower
  marshal := fun _ => []
  decodeBase64 := fun _ => none
  readsMetadata := fun _ => false

def phoneRequest : Request := { session := some ⟨"guest", "user", ["phone"], false⟩, id := "phone" }

/-- A session of the phone has the hardware id of the tablet read. -/
theorem metadata_reads_tablet :
    .identityRead "tablet" ∈
      ((RemoteHandler.remoteDeviceMetadata.serve bothOnlineEnv phoneRequest).run []).2 ∧
    ¬Confined phoneRequest (.identityRead "tablet") := by
  have commands : DeviceAction.deviceArgs "tablet" ["shell", hardwareIDCommand] ∈
      ((RemoteHandler.remoteDeviceMetadata.serve bothOnlineEnv phoneRequest).run []).2.filterMap
        Effect.args? := by decide +kernel
  constructor
  · obtain ⟨e, he, hargs⟩ := List.mem_filterMap.mp commands
    rwa [DeviceService.eq_of_args hargs] at he
  · rintro (hlisting | ⟨deviceID, ⟨rest, hargs⟩, session, hsession, assigned, hassigned, hid⟩)
    · simp [Effect.identityRead, Effect.listing, DeviceAction.deviceArgs] at hlisting
    · have hsame : "tablet" = deviceID := by
        have hsecond := congrArg (fun args => args[1]?) hargs
        exact Option.some.inj hsecond
      cases hsession
      rw [List.mem_singleton.mp hassigned, ← hsame] at hid
      exact absurd hid (by decide)

end RemoteHandlers

end AdbControl.Server
