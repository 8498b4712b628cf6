import AdbControl.Remote.Confinement

namespace AdbControl.Remote

open Framework

namespace RemoteControlService

variable {σ : Type} {P : Platform} {H : CoreRequestHandler σ} {d : Draws}
  {request : RemoteRequest} {session : AuthenticatedSession}

/-- The entries of the core's device list that are about an assigned device. -/
def assignedEntries (session : AuthenticatedSession) (devices : List Value) : List Value :=
  devices.filter (fun device => (deviceIdOf device).any (sessionCanAccessDevice session))

/-- The online serials that are names of an assigned device. -/
def assignedSerials (session : AuthenticatedSession) (ids : List String) : List String :=
  ids.filter (sessionCanAccessDevice session)

/-- What the core tells the service while it answers a device list request: the entries it lists,
and the online serials it sees after that. -/
structure Tells (H : CoreRequestHandler σ) (w : World σ) (d : Draws) (request : RemoteRequest)
    (devices : List Value) (ids : List String) : Prop where
  listed : (H w d ⟨request.id, request.method, request.params⟩).2 =
    .success request.id (.array devices)
  online : (currentAdbDeviceIds H (H w d ⟨request.id, request.method, request.params⟩).1 d).2.2 =
    ids

theorem canAccess_of_same {assigned deviceId : String} (h : assigned ∈ session.devices.toList)
    (same : sameRemoteDeviceIdentity assigned deviceId = true) :
    sessionCanAccessDevice session deviceId = true :=
  List.any_eq_true.mpr ⟨assigned, h, same⟩

/-- The serial under which an assigned device is online is found among the serials of the
assigned devices. -/
theorem find?_assignedSerials {assigned : String} (h : assigned ∈ session.devices.toList)
    (ids : List String) :
    (assignedSerials session ids).find? (sameRemoteDeviceIdentity assigned) =
      ids.find? (sameRemoteDeviceIdentity assigned) := by
  rw [assignedSerials, List.find?_filter]
  congr 1
  funext deviceId
  cases hsame : sameRemoteDeviceIdentity assigned deviceId with
  | false => simp
  | true => simp [canAccess_of_same h hsame]

/-- The entries about one assigned device are among those about the assigned devices. -/
theorem filter_assignedEntries {assigned : String} (h : assigned ∈ session.devices.toList)
    (devices : List Value) :
    (assignedEntries session devices).filter (fun device =>
        (deviceIdOf device).any (sameRemoteDeviceIdentity · assigned)) =
      devices.filter (fun device => (deviceIdOf device).any (sameRemoteDeviceIdentity · assigned))
      := by
  rw [assignedEntries, List.filter_filter]
  congr 1
  funext device
  cases hid : deviceIdOf device with
  | none => rfl
  | some deviceId =>
    cases hsame : sameRemoteDeviceIdentity deviceId assigned with
    | false => simp [hsame]
    | true =>
      have access := canAccess_of_same h (sameRemoteDeviceIdentity_symm hsame)
      simp [hsame, access]

/-- The entry of one assigned device is made from what is told about the assigned devices. -/
theorem reconciledEntry_assigned {assigned : String} (h : assigned ∈ session.devices.toList)
    (devices : List Value) (ids : List String) (reconciled : List Value) :
    reconciledEntry (assignedEntries session devices) (assignedSerials session ids) reconciled
        assigned =
      reconciledEntry devices ids reconciled assigned := by
  simp only [reconciledEntry, find?_assignedSerials h, filter_assignedEntries h]

/-- A user's device list is made from what is told about the assigned devices. -/
theorem reconcileRemoteDeviceList_assigned (devices : List Value) (ids : List String) :
    reconcileRemoteDeviceList session (assignedEntries session devices)
        (assignedSerials session ids) =
      reconcileRemoteDeviceList session devices ids := by
  unfold reconcileRemoteDeviceList
  refine List.foldl_ext _ _ _ ?_
  intro reconciled assigned h
  exact reconciledEntry_assigned h devices ids reconciled

/-- A list that the core gives is reconciled before a user gets it. -/
theorem forwardTo_deviceList {w : World σ} {devices : List Value} {ids : List String}
    (hmethod : request.method = "device.list") (hrole : session.role ≠ .admin)
    (told : Tells H w d request devices ids) (calls : List CoreCall) :
    (forwardTo H w d request session calls).response =
      ⟨some request.id, true, some (.array (reconcileRemoteDeviceList session devices ids)),
        none⟩ := by
  obtain ⟨listed, online⟩ := told
  rw [forwardTo, call]
  simp only [listed, online, IpcResponse.success]
  rw [if_pos ⟨hmethod, hrole, trivial⟩]

theorem forwardCoreRequest_deviceList (w : World σ) (hmethod : request.method = "device.list")
    (hrole : session.role ≠ .admin) :
    forwardCoreRequest H w d request session = forwardTo H w d request session [] := by
  have resolved : resolveRequestDeviceAlias H w d request session = (w, [], request) := by
    simp [resolveRequestDeviceAlias, requestedDevice, hmethod, deviceMethods]
  have allowed : authorizeUserCoreRequest request session = .ok () := by
    simp [authorizeUserCoreRequest, hmethod, userMethods]
  simp only [forwardCoreRequest, if_neg hrole, resolved, allowed]

/-- A device list request is refused for its session alone, or goes to the core. -/
theorem serve_deviceList (hmethod : request.method = "device.list") (token : String) :
    (∃ e, ∀ w : World σ, (serve P H w d request session token).response =
      .failure (some request.id) e) ∨
    ∀ w : World σ, serve P H w d request session token =
      forwardCoreRequest H w d request session := by
  by_cases hchange : session.passwordChangeRequired = true
  · have refused (w : World σ) : serve P H w d request session token =
        fail w request (some session) ⟨"REMOTE_AUTH_PASSWORD_CHANGE_REQUIRED",
          "The account password must be changed before remote control is allowed.", "remote.auth",
          false, none⟩ := by
      rw [serve, if_pos ⟨hchange, by simp [hmethod]⟩]
    exact Or.inl ⟨_, fun w => by rw [refused w]; rfl⟩
  · exact Or.inr (fun w => by simp [serve, hmethod, hchange])

/-- When two states of the core tell a user's device list request the same about the devices
that the user is assigned, the user gets the same response, whatever else they list or see. -/
theorem device_list_noninterference {w₁ w₂ : World σ} {devices₁ devices₂ : List Value}
    {ids₁ ids₂ : List String} (hmethod : request.method = "device.list")
    (hrole : session.role ≠ .admin) (told₁ : Tells H w₁ d request devices₁ ids₁)
    (told₂ : Tells H w₂ d request devices₂ ids₂)
    (entries : assignedEntries session devices₁ = assignedEntries session devices₂)
    (serials : assignedSerials session ids₁ = assignedSerials session ids₂) (token : String) :
    (serve P H w₁ d request session token).response =
      (serve P H w₂ d request session token).response := by
  rcases @serve_deviceList σ P H d request session hmethod token with ⟨e, he⟩ | hserve
  · rw [he w₁, he w₂]
  · rw [hserve w₁, hserve w₂, forwardCoreRequest_deviceList w₁ hmethod hrole,
      forwardCoreRequest_deviceList w₂ hmethod hrole, forwardTo_deviceList hmethod hrole told₁,
      forwardTo_deviceList hmethod hrole told₂, ← reconcileRemoteDeviceList_assigned devices₁ ids₁,
      entries, serials, reconcileRemoteDeviceList_assigned devices₂ ids₂]

end RemoteControlService

/-- A core that lists some entries, and whose ADB sees some serials as online. -/
def listingCore : CoreRequestHandler (List Value × List String) := fun w _ request =>
  if request.method = "device.list" then (w, .success request.id (.array w.core.1))
  else (w, .success request.id (.object [("stdout", .string
    (String.join (w.core.2.map (· ++ " device\n"))))]))

def entryOf (deviceId name : String) : Value :=
  .object [("deviceId", .string deviceId), ("name", .string name),
    ("connectionState", .string "ready")]

def aliceList : RemoteRequest := ⟨"8", some "t1", "device.list", .object []⟩

/-- Another handset is listed and online in one state of the core only. -/
theorem device_list_noninterference_neighbour :
    (RemoteControlService.serve freshPlatform listingCore
      ⟨aliceManager, [entryOf "adb-R3CR70SJHHR-2VyQ5v._adb-tls-connect._tcp" "Fold"], []⟩
      ⟨"t2", [], none⟩ aliceList
      (sessionFromUser "t1" alice) "t1").response =
    (RemoteControlService.serve freshPlatform listingCore
      ⟨aliceManager, [entryOf "usb-7" "Neighbour",
          entryOf "adb-R3CR70SJHHR-2VyQ5v._adb-tls-connect._tcp" "Fold"], ["usb-7"]⟩
      ⟨"t2", [], none⟩ aliceList
      (sessionFromUser "t1" alice) "t1").response := by
  apply RemoteControlService.device_list_noninterference (by rfl) (by decide) ⟨by rfl, by rfl⟩
    ⟨by rfl, by rfl⟩
  · rfl
  · rfl

end AdbControl.Remote
