import AdbControl.Server.Agreement
import AdbControl.Remote.Confinement

namespace AdbControl.Server

open Framework Remote RemoteControlService

/-- No serial of the requested handset comes before the requested serial. -/
def Leading (same : String → String → Bool) (requested : String) (ids : List String) : Prop :=
  ∀ earlier ∈ ids.takeWhile (fun id => id != requested), same requested earlier = false

instance (same : String → String → Bool) (requested : String) (ids : List String) :
    Decidable (Leading same requested ids) :=
  inferInstanceAs (Decidable (∀ earlier ∈ ids.takeWhile _, same requested earlier = false))

/-- Of the serials of a handset the first is found, which is the requested one exactly when that
leads. -/
theorem find?_leading {same : String → String → Bool} {requested : String}
    (hself : same requested requested = true) {ids : List String} (h : requested ∈ ids) :
    ∃ current, ids.find? (same requested) = some current ∧
      (current = requested ↔ Leading same requested ids) := by
  induction ids with
  | nil => cases h
  | cons id ids ih =>
    by_cases hid : id = requested
    · subst hid
      exact ⟨id, List.find?_cons_of_pos hself, by simp [Leading]⟩
    · have hskip : (id :: ids).takeWhile (fun id => id != requested) =
          id :: ids.takeWhile (fun id => id != requested) := by
        rw [List.takeWhile_cons, if_pos (by simpa using hid)]
      cases hsame : same requested id with
      | true =>
        refine ⟨id, List.find?_cons_of_pos hsame, iff_of_false hid ?_⟩
        intro hleads
        have hfirst := hleads id (by rw [hskip]; exact List.mem_cons_self)
        rw [hsame] at hfirst
        cases hfirst
      | false =>
        obtain ⟨current, hcurrent, hiff⟩ := ih ((List.mem_cons.mp h).resolve_left (Ne.symm hid))
        refine ⟨current, by rw [List.find?_cons_of_neg (by simp [hsame]), hcurrent], hiff.trans ?_⟩
        rw [Leading, Leading, hskip, List.forall_mem_cons]
        exact (and_iff_right hsame).symm

section Alias

variable {σ : Type} {request : RemoteRequest} {session : AuthenticatedSession}

/-- A request that is readdressed asks for the new serial. -/
theorem requestedDevice_readdressed {requested : String} (current : String)
    (h : requestedDevice request = some requested) :
    requestedDevice (readdressed request current) = some current := by
  unfold requestedDevice at h ⊢
  rw [readdressed_method]
  split_ifs at h ⊢ with hadb hdevice
  · obtain ⟨item, hitem, -⟩ := Option.bind_eq_some_iff.mp h
    obtain ⟨args, hargs, hat⟩ := Option.bind_eq_some_iff.mp hitem
    obtain ⟨hlt, -⟩ := List.getElem?_eq_some_iff.mp hat
    rw [adbArgs_readdressed current hadb hargs]
    simp [List.getElem?_set_self hlt, Value.asStr]
  · obtain ⟨item, hitem, -⟩ := Option.bind_eq_some_iff.mp h
    have hobject := Value.isObject_of_get? hitem
    rw [readdressed, if_neg hadb]
    simp [Value.get?_set_self _ hobject, Value.asStr]

/-- Resolving the alias of an online serial makes the request ask for the first online serial of
the handset, if the session may use it. -/
theorem resolveRequestDeviceAlias_online (H : CoreRequestHandler σ) (w : World σ) (d : Draws)
    {requested text : String} (named : requestedDevice request = some requested)
    (printed : ((call H w d .adbDevices adbDevicesRequest).2.2.result.bind
      (·.get? "stdout")).bind Value.asStr = some text)
    (online : requested ∈ adbDeviceIds text) :
    ∃ current, requestedDevice (resolveRequestDeviceAlias H w d request session).2.2 = some current ∧
      sameRemoteDeviceIdentity requested current = true ∧ current ∈ adbDeviceIds text ∧
      (current = requested ↔ (sessionCanAccessDevice session requested = true →
        Leading sameRemoteDeviceIdentity requested (adbDeviceIds text))) := by
  obtain ⟨current, hcurrent, hiff⟩ :=
    find?_leading (sameRemoteDeviceIdentity_refl requested) online
  by_cases access : sessionCanAccessDevice session requested = true
  · refine ⟨current, ?_, List.find?_some hcurrent, List.mem_of_find?_eq_some hcurrent, ?_⟩
    · rw [resolveRequestDeviceAlias_serial H w d named access printed, coreSerial, hcurrent]
      exact requestedDevice_readdressed current named
    · rw [hiff]
      exact ⟨fun hleads _ => hleads, fun hleads => hleads access⟩
  · have unresolved : (resolveRequestDeviceAlias H w d request session).2.2 = request := by
      simp only [resolveRequestDeviceAlias, named, if_neg access]
    rw [unresolved]
    exact ⟨requested, named, sameRemoteDeviceIdentity_refl requested, online,
      iff_of_true rfl (fun h => (access h).elim)⟩

end Alias

/-- The serials that the server takes for online. -/
def onlineIds (text : String) : List String := (parseDevices text).filterMap onlineId

theorem equivalentDeviceID_refl (id : String) : equivalentDeviceID id id = true := by
  simp [equivalentDeviceID]

theorem resolveOnlineDeviceID_online {requested text : String} (online : requested ∈ onlineIds text) :
    ∃ current, resolveOnlineDeviceID (.ok text) requested = .ok current ∧
      equivalentDeviceID requested current = true ∧ current ∈ onlineIds text ∧
      (current = requested ↔ Leading equivalentDeviceID requested (onlineIds text)) := by
  obtain ⟨current, hcurrent, hiff⟩ := find?_leading (equivalentDeviceID_refl requested) online
  refine ⟨current, ?_, List.find?_some hcurrent, List.mem_of_find?_eq_some hcurrent, hiff⟩
  have found := serverSerial_online requested text
  rw [show (parseDevices text).filterMap onlineId = onlineIds text from rfl, hcurrent,
    serverSerial] at found
  cases hresolved : resolveOnlineDeviceID (.ok text) requested with
  | error e =>
    rw [hresolved] at found
    cases found
  | ok serial =>
    rw [hresolved] at found
    cases found
    rfl

/-- A core whose ADB prints a text. -/
def printingCore (text : String) : CoreRequestHandler Unit := fun w _ request =>
  (w, .success request.id (.object [("stdout", .string text)]))

def invokeOn (deviceId : String) : RemoteRequest :=
  ⟨"9", some "t1", "device.invoke", .object [("deviceId", .string deviceId)]⟩

/-- The request of alice for her phone, as it is resolved while ADB prints a text. -/
def aliceResolved (text : String) : RemoteRequest :=
  (resolveRequestDeviceAlias (printingCore text) ⟨aliceManager, ()⟩ ⟨"t2", [], none⟩
    (invokeOn "adb-R3CR70SJHHR-2VyQ5v._adb-tls-connect._tcp") (sessionFromUser "t1" alice)).2.2

/-- Two phones of one service name are online, the one with a collision suffix first. -/
def twins : String := "List of devices attached\n" ++
  "adb-R3CR70SJHHR-2VyQ5v (2)._adb-tls-connect._tcp device\n" ++
  "adb-R3CR70SJHHR-2VyQ5v._adb-tls-connect._tcp device\n"

end AdbControl.Server
