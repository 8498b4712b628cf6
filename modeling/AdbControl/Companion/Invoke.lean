import AdbControl.Ipc
import AdbControl.Companion.Correlation
import AdbControl.Companion.SessionInvariants

namespace AdbControl.Companion

open Framework

def CompanionRegistry.getDevice (r : CompanionRegistry) (deviceId : String) :
    Except AppError CompanionDevice :=
  match r.devices.find? (fun device => device.deviceId == deviceId) with
  | some device => .ok device
  | none =>
    .error ⟨"COMPANION_DEVICE_NOT_CONNECTED",
      "Android companion device is not connected: " ++ deviceId, "companion.registry", true,
      some "Pair the Android companion app with Core before invoking capabilities."⟩

structure DeviceInvokeParams where
  deviceId : String
  capabilityId : String
  operation : String
  args : Value

def DeviceInvokeParams.ofJson (v : Value) : Option DeviceInvokeParams := do
  let [deviceId, capabilityId, operation, args] ← v.structFields
    ["deviceId", "capabilityId", "operation", "args"] | none
  let deviceId ← defaulted "" Value.asStr deviceId
  let capabilityId ← defaulted "" Value.asStr capabilityId
  let operation ← defaulted "" Value.asStr operation
  some ⟨deviceId, capabilityId, operation, args.getD (.object [])⟩

def requireNonEmpty (value fieldName : String) : Except AppError Unit :=
  if isBlank value then
    .error ⟨"IPC_PARAMS_INVALID", "Required IPC param is missing or empty: " ++ fieldName,
      "ipc.protocol", false, none⟩
  else .ok ()

/-- `device.invoke` up to the router: the listed device must have the capability, and the
capability the operation. -/
def handleDeviceInvoke (registry : CompanionRegistry) (request : IpcRequest) :
    Except AppError CompanionCommandDispatch := do
  let params ← parseIpcParams
    "device.invoke params must match \x7b deviceId, capabilityId, operation, args \x7d."
    DeviceInvokeParams.ofJson request.params
  requireNonEmpty params.deviceId "deviceId"
  requireNonEmpty params.capabilityId "capabilityId"
  requireNonEmpty params.operation "operation"
  if !params.args.isObject then
    .error ⟨"IPC_PARAMS_INVALID", "device.invoke args must be a JSON object.", "ipc.protocol",
      false, none⟩
  else
    let device ← registry.getDevice params.deviceId
    match device.capabilities.find? (fun capability => capability.id == params.capabilityId) with
    | none =>
      .error ⟨"COMPANION_CAPABILITY_NOT_FOUND",
        "Capability " ++ params.capabilityId ++ " is not exposed by device " ++ params.deviceId ++
          ".", "companion.registry", true, none⟩
    | some capability =>
      if !capability.operations.contains params.operation then
        .error ⟨"COMPANION_OPERATION_NOT_SUPPORTED",
          "Operation " ++ params.operation ++ " is not supported by capability " ++
            params.capabilityId ++ ".", "companion.registry", true, none⟩
      else
        .ok ⟨request.id, params.deviceId, params.capabilityId, params.operation, params.args⟩

/-- The commands that `device.invoke` has let through, by call, and the transport that sends
them. -/
structure InvokeState where
  commands : Commands
  checked : Keyed Nat CompanionCommandDispatch

/-- A request is checked against the registry, its command is taken to the transport, a caller's
thread goes on, or a connection calls the transport: in any order. -/
inductive InvokeAct
  | invoke (n : Nat) (request : IpcRequest)
  | dispatch (n : Nat)
  | call (n : Nat) (step : CallStep)
  | transport (op : LiveOp)

/-- What is seen of the sessions and the checks. -/
inductive InvokeEvent
  | hello (deviceId : String)
  | announced (deviceId : String) (announcements : List AnnouncedCapability)
  | checked (n : Nat) (command : CompanionCommandDispatch)

/-- A device's lists count from its last hello. -/
def InvokeEvent.decides (deviceId : String) : InvokeEvent → Bool
  | hello d | announced d _ => d == deviceId
  | checked .. => false

/-- What the session manager takes from an envelope. -/
def CompanionSessionManager.hears (m : CompanionSessionManager) (envelope : QuicEnvelope) :
    List InvokeEvent :=
  match (m.handleEnvelope envelope).2, envelope.kind with
  | .ok _, .hello => (CompanionHello.ofJson envelope.payload).toList.map (fun h => .hello h.deviceId)
  | .ok _, .capabilityList =>
    match requireDeviceId envelope, (envelope.payload.get? "capabilities").bind
        (fun v => v.asArray.bind (·.mapM AnnouncedCapability.ofJson)) with
    | .ok deviceId, some announcements => [.announced deviceId announcements]
    | _, _ => []
  | _, _ => []

namespace InvokeState

def start : InvokeState := ⟨.start, ∅⟩

def step (s : InvokeState) : InvokeAct → InvokeState
  | .invoke n request =>
    if n ∈ s.checked then s
    else
      match handleDeviceInvoke s.commands.live.registry request with
      | .error _ => s
      | .ok command => { s with checked := s.checked.insert n command }
  | .dispatch n =>
    match s.checked[n]? with
    | none => s
    | some command =>
      { s with commands :=
        s.commands.step (.start n command.deviceId (buildCommandRequestEnvelope command)) }
  | .call n step => { s with commands := s.commands.step (.call n step) }
  | .transport op => { s with commands := s.commands.step (.transport op) }

def emit (s : InvokeState) : InvokeAct → List InvokeEvent
  | .invoke n request =>
    if n ∈ s.checked then []
    else
      match handleDeviceInvoke s.commands.live.registry request with
      | .error _ => []
      | .ok command => [.checked n command]
  | .transport (.accept _ _ _ envelope) =>
    if envelope.Announces then s.commands.live.ingress.sessionManager.hears envelope else []
  | _ => []

/-- The act hands the command of a call to the channel of its companion. -/
def Sends (s : InvokeState) (act : InvokeAct) (n : Nat) (envelope : QuicEnvelope) : Prop :=
  act = .call n (.send false) ∧ ∃ call handle, s.commands.calls[n]? = some call ∧
    call.phase = .registered handle ∧ call.envelope = envelope

end InvokeState

/-- The events of a run of the core from its start. -/
def invokeEvents (acts : List InvokeAct) : List InvokeEvent :=
  eventsOf InvokeState.step InvokeState.emit .start acts

namespace CompanionRegistry

def find (r : CompanionRegistry) (deviceId : String) : Option CompanionDevice :=
  r.devices.find? (fun device => device.deviceId == deviceId)

theorem deviceId_of_find {r : CompanionRegistry} {deviceId : String} {device : CompanionDevice}
    (h : r.find deviceId = some device) : device.deviceId = deviceId := by
  have found := List.find?_some h
  exact beq_iff_eq.mp found

theorem find_upsert (r : CompanionRegistry) (device : CompanionDevice) (deviceId : String) :
    (r.upsert device).find deviceId =
      if device.deviceId = deviceId then some device else r.find deviceId := by
  obtain ⟨devices⟩ := r
  simp only [find, upsert]
  induction devices with
  | nil => by_cases hd : device.deviceId = deviceId <;> simp [upsertInto, hd]
  | cons current rest ih =>
    by_cases hid : current.deviceId = device.deviceId
    · by_cases hd : device.deviceId = deviceId <;> simp [upsertInto, hid, hd]
    · by_cases hc : current.deviceId = deviceId
      · have hd : device.deviceId ≠ deviceId := fun he => hid (hc.trans he.symm)
        simp [upsertInto, hc, hd, Ne.symm hd]
      · simp [upsertInto, hid, hc, ih]

/-- After all devices of a list are written, a device that is found is one of them or was found
before and is not in the list. -/
theorem find_upsertAll {r : CompanionRegistry} {devices : List CompanionDevice} {deviceId : String}
    {device : CompanionDevice} (h : (devices.foldl upsert r).find deviceId = some device) :
    device ∈ devices ∨
      r.find deviceId = some device ∧ deviceId ∉ devices.map CompanionDevice.deviceId := by
  induction devices generalizing r with
  | nil => exact Or.inr ⟨h, by simp⟩
  | cons first rest ih =>
    rcases ih h with hmem | ⟨hfind, hrest⟩
    · exact Or.inl (List.mem_cons_of_mem first hmem)
    · rw [find_upsert] at hfind
      split_ifs at hfind with hd
      · cases hfind
        exact Or.inl List.mem_cons_self
      · refine Or.inr ⟨hfind, ?_⟩
        rw [List.map_cons, List.mem_cons, not_or]
        exact ⟨Ne.symm hd, hrest⟩

theorem find_remove {r : CompanionRegistry} {removed deviceId : String} {device : CompanionDevice}
    (h : (r.remove removed).find deviceId = some device) : r.find deviceId = some device := by
  have hid := deviceId_of_find h
  simp only [find, remove, List.find?_filter] at h
  rw [find, ← h]
  congr 1
  funext candidate
  by_cases hc : candidate.deviceId = deviceId
  · have kept : deviceId ≠ removed := by
      have hboth := List.find?_some h
      simp only [bne_iff_ne, hid, decide_eq_true_eq] at hboth
      exact hboth.1
    simp [hc, kept]
  · simp [hc]

end CompanionRegistry

/-- What a checked request says about the listed device. -/
theorem handleDeviceInvoke_ok {registry : CompanionRegistry} {request : IpcRequest}
    {command : CompanionCommandDispatch} (h : handleDeviceInvoke registry request = .ok command) :
    ∃ device row, registry.find command.deviceId = some device ∧ row ∈ device.capabilities ∧
      row.id = command.capabilityId ∧ command.operation ∈ row.operations := by
  unfold handleDeviceInvoke at h
  obtain ⟨params, -, h⟩ := bind_eq_ok.mp h
  obtain ⟨-, -, h⟩ := bind_eq_ok.mp h
  obtain ⟨-, -, h⟩ := bind_eq_ok.mp h
  obtain ⟨-, -, h⟩ := bind_eq_ok.mp h
  split_ifs at h with hargs
  obtain ⟨device, hdevice, h⟩ := bind_eq_ok.mp h
  have found : registry.find params.deviceId = some device := by
    rw [CompanionRegistry.getDevice] at hdevice
    rw [CompanionRegistry.find]
    split at hdevice
    · next hfind =>
      cases hdevice
      exact hfind
    · cases hdevice
  split at h
  · cases h
  · next row hrow =>
    split_ifs at h with hoperation
    cases h
    have hid := List.find?_some hrow
    refine ⟨device, row, found, List.mem_of_find?_eq_some hrow, beq_iff_eq.mp hid, ?_⟩
    simpa using hoperation

namespace CompanionSessionManager

/-- A session's capabilities are what the last list of its device resolved to, heard since the
device's last hello. -/
def Heard (m : CompanionSessionManager) (h : List InvokeEvent) : Prop :=
  ∀ (deviceId : String) (session : CompanionSession), m.sessions[deviceId]? = some session →
    session.capabilities = [] ∨
    ∃ announcements,
      lastOf (InvokeEvent.decides deviceId) h = some (.announced deviceId announcements) ∧
      announcements.mapM resolveCapability = .ok session.capabilities

/-- Events that decide nothing about any device leave what was heard. -/
theorem Heard.undecided {m : CompanionSessionManager} {h : List InvokeEvent} (hh : m.Heard h)
    {e : InvokeEvent} (he : ∀ deviceId, e.decides deviceId = false) : m.Heard (h ++ [e]) := by
  intro deviceId session hsession
  rw [lastOf_snoc, he deviceId, if_neg Bool.false_ne_true]
  exact hh deviceId session hsession

theorem Heard.write {m : CompanionSessionManager} {h : List InvokeEvent} (hh : m.Heard h)
    {deviceId : String} {session : CompanionSession} {e : InvokeEvent}
    (he : ∀ d, e.decides d = (deviceId == d))
    (hs : session.capabilities = [] ∨ ∃ announcements, e = .announced deviceId announcements ∧
      announcements.mapM resolveCapability = .ok session.capabilities) :
    Heard { m with sessions := m.sessions.insert deviceId session } (h ++ [e]) := by
  intro d found hfound
  rw [Keyed.lookup_insert] at hfound
  rw [lastOf_snoc, he d]
  split_ifs at hfound with hd
  · cases hfound
    subst hd
    rw [if_pos (beq_self_eq_true d)]
    rcases hs with hnone | ⟨announcements, hannounced, hresolved⟩
    · exact Or.inl hnone
    · exact Or.inr ⟨announcements, by rw [hannounced], hresolved⟩
  · rw [if_neg (by simp [Ne.symm hd])]
    exact hh d found hfound

/-- One envelope keeps what was heard, with what is heard of it. -/
theorem Heard.handleEnvelope {m : CompanionSessionManager} {h : List InvokeEvent} (hh : m.Heard h)
    (envelope : QuicEnvelope) :
    (m.handleEnvelope envelope).1.Heard (h ++ m.hears envelope) := by
  rcases m.handleEnvelope_spec envelope with ⟨e, he⟩ | ⟨-, ⟨reply, hreply⟩, htakes⟩
  · simpa [hears, he] using hh
  · rw [hears, hreply]
    generalize (m.handleEnvelope envelope).1 = m' at htakes ⊢
    cases htakes with
    | hello hello kind checked =>
      rw [kind, ofJson_of_checkHello checked]
      exact hh.write (fun _ => rfl) (Or.inl rfl)
    | capabilityList deviceId session items kind found resolved =>
      obtain ⟨v, announcements, hv, hparsed, hresolved⟩ := resolved.listed
      rw [kind, resolved.named, hv, Option.bind_some, hparsed]
      exact hh.write (fun _ => rfl) (Or.inr ⟨announcements, rfl, hresolved⟩)
    | permissionState deviceId session items kind found resolved =>
      rw [kind, List.append_nil]
      intro d other hother
      rcases Keyed.lookup_insert_cases hother with ⟨rfl, rfl⟩ | ⟨-, hother⟩
      · exact hh d session found
      · exact hh d other hother
    | heartbeat deviceId kind named =>
      rw [kind, List.append_nil]
      exact hh

end CompanionSessionManager

namespace LiveState

/-- Every device that is found in the registry shows the current session of that device. -/
def Mirrors (s : LiveState) : Prop :=
  ∀ deviceId device, s.registry.find deviceId = some device →
    ∃ session, s.ingress.sessionManager.sessions[deviceId]? = some session ∧
      device = session.toDevice

/-- The registry shows sessions, kept by their ids. -/
structure Shows (s : LiveState) : Prop where
  keyed : s.ingress.sessionManager.WellKeyed
  mirrors : s.Mirrors

variable {s : LiveState}

theorem Shows.disconnect (h : s.Shows) (connectionId : UInt64) (deviceId : Option String) :
    (s.disconnect connectionId deviceId).Shows := by
  rcases s.disconnect_cases connectionId deviceId with hsame | ⟨d, hgone⟩
  · rw [hsame]
    exact h
  · rw [hgone]
    exact ⟨h.keyed, fun d' device hfind => h.mirrors d' device (CompanionRegistry.find_remove hfind)⟩

theorem Shows.accept (h : s.Shows) (connectionId : UInt64) (outgoing : Nat) (closed : Bool)
    (envelope : QuicEnvelope) :
    (s.acceptEnvelope connectionId outgoing closed envelope).state.Shows := by
  by_cases hannounces : envelope.Announces
  · have valid := valid_of_announces hannounces
    obtain ⟨hregistry, hmanager, -⟩ := @acceptEnvelope_announcing s connectionId outgoing closed
      envelope hannounces
    rw [s.ingress.handleEnvelope_sessions valid] at hregistry hmanager
    have keyed := h.keyed.handleEnvelope valid
    refine ⟨by rw [hmanager]; exact keyed, ?_⟩
    intro deviceId device hfind
    rw [hmanager]
    rw [hregistry] at hfind
    rcases CompanionRegistry.find_upsertAll hfind with hmem | ⟨hold, hunlisted⟩
    · -- listed again: it is the session itself
      obtain ⟨⟨key, session⟩, hentry, hdevice⟩ := List.mem_map.mp hmem
      rw [Std.ExtTreeMap.mem_toList_iff_getElem?_eq_some] at hentry
      have hid := CompanionRegistry.deviceId_of_find hfind
      have hkey : session.deviceId = key := keyed key session hentry
      refine ⟨session, ?_, hdevice.symm⟩
      rw [← hid, ← hdevice]
      exact hkey ▸ hentry
    · -- not listed again: then it has no session, but it had one before
      obtain ⟨session, hsession, -⟩ := h.mirrors deviceId device hold
      have listed := (CompanionSessionManager.mem_devices_ids keyed deviceId).mpr
        ((s.ingress.sessionManager.mem_handleEnvelope valid deviceId).mpr
          (Or.inl ((Keyed.mem_iff_lookup _ _).mpr ⟨session, hsession⟩)))
      exact absurd listed hunlisted
  · obtain ⟨hregistry, hingress, -⟩ := @acceptEnvelope_quiet s connectionId outgoing closed envelope
      hannounces
    refine ⟨by rw [hingress]; exact h.keyed, ?_⟩
    intro deviceId device hfind
    rw [hregistry] at hfind
    rw [hingress]
    exact h.mirrors deviceId device hfind

theorem Shows.step (h : s.Shows) (op : LiveOp) : (op.step s).Shows := by
  cases op with
  | accept connectionId outgoing closed envelope =>
    exact h.accept connectionId outgoing closed envelope
  | disconnect connectionId deviceId => exact h.disconnect connectionId deviceId
  | disconnectConnection connectionId =>
    exact disconnectConnection_keeps (fun _ c d hs => Shows.disconnect hs c d) h

end LiveState

/-- The last list of the command's device, since its last hello, announced the capability, and
Core's catalog has the operation in that capability's row. -/
def Allowed (h : List InvokeEvent) (command : CompanionCommandDispatch) : Prop :=
  ∃ announcements,
    lastOf (InvokeEvent.decides command.deviceId) h =
      some (.announced command.deviceId announcements) ∧
    ∃ announcement ∈ announcements, announcement.id = command.capabilityId ∧
      ∃ row ∈ androidCompanionCapabilityCatalog, row.id = command.capabilityId ∧
        command.operation ∈ row.operations ∧
        ∀ operation ∈ announcement.operations, operation ∈ row.operations

theorem allowed_of_checked {s : LiveState} {h : List InvokeEvent} (hs : s.Shows)
    (hh : s.ingress.sessionManager.Heard h) {request : IpcRequest}
    {command : CompanionCommandDispatch}
    (hok : handleDeviceInvoke s.registry request = .ok command) : Allowed h command := by
  obtain ⟨device, row, hfind, hrow, hid, hoperation⟩ := handleDeviceInvoke_ok hok
  obtain ⟨session, hsession, hdevice⟩ := hs.mirrors command.deviceId device hfind
  have hcapability : row ∈ session.capabilities := by
    rw [hdevice] at hrow
    exact hrow
  rcases hh command.deviceId session hsession with hnone | ⟨announcements, hlast, hresolved⟩
  · rw [hnone] at hcapability
    cases hcapability
  · -- the row was resolved from one of the announcements
    rw [mapM_eq_ok] at hresolved
    obtain ⟨i, hi, hrowi⟩ := List.getElem_of_mem hcapability
    have hi' : i < announcements.length := by
      rw [hresolved.length_eq]
      exact hi
    have resolved := hresolved.get hi' hi
    rw [List.get_eq_getElem, List.get_eq_getElem, hrowi] at resolved
    obtain ⟨hcatalog, hann, hsubset⟩ := resolveCapability_catalog resolved
    exact ⟨announcements, hlast, announcements[i], List.getElem_mem hi', hann.symm.trans hid, row,
      hcatalog, hid, hoperation, hsubset⟩

/-- The call is that of the command. -/
def Call.Carries (call : Call) (command : CompanionCommandDispatch) : Prop :=
  call.deviceId = command.deviceId ∧ call.envelope = buildCommandRequestEnvelope command

namespace Commands

/-- What a call is for never changes; a new one is for what it was started with. -/
theorem calls_step (s : Commands) (act : Act) {n : Nat} {call : Call}
    (h : (s.step act).calls[n]? = some call) :
    (∃ before, s.calls[n]? = some before ∧ call.deviceId = before.deviceId ∧
      call.envelope = before.envelope) ∨
    ∃ deviceId envelope, act = .start n deviceId envelope ∧ call.deviceId = deviceId ∧
      call.envelope = envelope := by
  cases act with
  | start m deviceId envelope =>
    simp only [step] at h
    split_ifs at h with hm
    · exact Or.inl ⟨call, h, rfl, rfl⟩
    · rw [Keyed.lookup_insert] at h
      split_ifs at h with hn
      · cases h
        refine Or.inr ⟨deviceId, envelope, by rw [hn], ?_, ?_⟩
        · cases s.live.sessions[deviceId]? <;> rfl
        · cases s.live.sessions[deviceId]? <;> rfl
      · exact Or.inl ⟨call, h, rfl, rfl⟩
  | call m step =>
    rcases s.step_call_cases m step with hsame | ⟨before, phase, change, hbefore, -, hset⟩
    · rw [hsame] at h
      exact Or.inl ⟨call, h, rfl, rfl⟩
    · rw [hset] at h
      rcases Keyed.lookup_insert_cases h with ⟨rfl, rfl⟩ | ⟨-, h⟩
      · exact Or.inl ⟨before, hbefore, rfl, rfl⟩
      · exact Or.inl ⟨call, h, rfl, rfl⟩
  | transport op =>
    rcases s.step_transport_cases op with ⟨r, m, before, -, -, hbefore, hset⟩ | ⟨-, hsame⟩
    · rw [hset] at h
      rcases Keyed.lookup_insert_cases h with ⟨rfl, rfl⟩ | ⟨-, h⟩
      · exact Or.inl ⟨before, hbefore, rfl, rfl⟩
      · exact Or.inl ⟨call, h, rfl, rfl⟩
    · rw [hsame] at h
      exact Or.inl ⟨call, h, rfl, rfl⟩

/-- Callers leave the registry and the sessions alone. -/
theorem live_step (s : Commands) (act : Act) (h : ∀ op, act ≠ .transport op) :
    (s.step act).live.registry = s.live.registry ∧ (s.step act).live.ingress = s.live.ingress := by
  cases act with
  | start m deviceId envelope =>
    simp only [step]
    split_ifs <;> exact ⟨rfl, rfl⟩
  | call m step =>
    rcases s.step_call_cases m step with hsame | ⟨call, phase, change, -, -, hset⟩
    · rw [hsame]
      exact ⟨rfl, rfl⟩
    · rw [hset]
      exact ⟨rfl, rfl⟩
  | transport op => exact absurd rfl (h op)

end Commands

/-- How the core stands to its history: the registry shows the sessions, the sessions what was
heard, every checked command was allowed by what was heard before its check, and every call
carries a checked command. -/
structure InvokeState.Follows (s : InvokeState) (h : List InvokeEvent) : Prop where
  showing : s.commands.live.Shows
  heard : s.commands.live.ingress.sessionManager.Heard h
  checked : ∀ (n : Nat) (command : CompanionCommandDispatch), s.checked[n]? = some command →
    ∃ earlier later, h = earlier ++ .checked n command :: later ∧ Allowed earlier command
  carried : ∀ (n : Nat) (call : Call), s.commands.calls[n]? = some call →
    ∃ command : CompanionCommandDispatch, s.checked[n]? = some command ∧ call.Carries command

namespace InvokeState.Follows

variable {s : InvokeState} {h : List InvokeEvent}

theorem checked_append (hf : s.Follows h) (h' : List InvokeEvent) (n : Nat)
    (command : CompanionCommandDispatch) (hc : s.checked[n]? = some command) :
    ∃ earlier later, h ++ h' = earlier ++ .checked n command :: later ∧ Allowed earlier command := by
  obtain ⟨earlier, later, he, hallowed⟩ := hf.checked n command hc
  exact ⟨earlier, later ++ h', by simp [he], hallowed⟩

theorem invoke (hf : s.Follows h) (n : Nat) (request : IpcRequest) :
    (s.step (.invoke n request)).Follows (h ++ s.emit (.invoke n request)) := by
  by_cases hn : n ∈ s.checked
  · simpa [step, emit, hn] using hf
  · cases hok : handleDeviceInvoke s.commands.live.registry request with
    | error e => simpa [step, emit, hn, hok] using hf
    | ok command =>
      simp only [step, emit, if_neg hn, hok]
      refine ⟨hf.showing, hf.heard.undecided (fun _ => rfl), ?_, ?_⟩
      · intro m other hother
        rcases Keyed.lookup_insert_cases hother with ⟨rfl, rfl⟩ | ⟨-, hother⟩
        · exact ⟨h, [], rfl, allowed_of_checked hf.showing hf.heard hok⟩
        · exact hf.checked_append _ m other hother
      · intro m call hcall
        obtain ⟨other, hother, hcarries⟩ := hf.carried m call hcall
        refine ⟨other, ?_, hcarries⟩
        rw [Keyed.lookup_insert, if_neg]
        · exact hother
        · intro hm
          exact hn ((Keyed.mem_iff_lookup _ _).mpr ⟨other, hm ▸ hother⟩)

/-- A caller's step keeps everything, when a call it starts carries its checked command. -/
theorem callers (hf : s.Follows h) (act : Act) (hact : ∀ op, act ≠ .transport op)
    (hstart : ∀ n deviceId envelope, act = .start n deviceId envelope →
      ∃ command : CompanionCommandDispatch, s.checked[n]? = some command ∧
        deviceId = command.deviceId ∧ envelope = buildCommandRequestEnvelope command) :
    InvokeState.Follows { s with commands := s.commands.step act } h := by
  obtain ⟨hregistry, hingress⟩ := s.commands.live_step act hact
  refine ⟨⟨?_, ?_⟩, ?_, hf.checked, ?_⟩
  · rw [hingress]
    exact hf.showing.keyed
  · intro deviceId device hfind
    rw [hregistry] at hfind
    rw [hingress]
    exact hf.showing.mirrors deviceId device hfind
  · rw [hingress]
    exact hf.heard
  · intro n call hcall
    rcases s.commands.calls_step act hcall with ⟨before, hbefore, hdevice, henvelope⟩ |
      ⟨deviceId, envelope, hstarted, hdevice, henvelope⟩
    · obtain ⟨command, hchecked, hcarries⟩ := hf.carried n before hbefore
      exact ⟨command, hchecked, hdevice.trans hcarries.1, henvelope.trans hcarries.2⟩
    · obtain ⟨command, hchecked, hd, he⟩ := hstart n deviceId envelope hstarted
      exact ⟨command, hchecked, hdevice.trans hd, henvelope.trans he⟩

theorem transport (hf : s.Follows h) (op : LiveOp) :
    (s.step (.transport op)).Follows (h ++ s.emit (.transport op)) := by
  have carried (n : Nat) (call : Call)
      (hcall : (s.commands.step (.transport op)).calls[n]? = some call) :
      ∃ command : CompanionCommandDispatch, s.checked[n]? = some command ∧ call.Carries command := by
    rcases s.commands.calls_step (.transport op) hcall with ⟨before, hbefore, hdevice, henvelope⟩ |
      ⟨deviceId, envelope, hstarted, -⟩
    · obtain ⟨command, hchecked, hcarries⟩ := hf.carried n before hbefore
      exact ⟨command, hchecked, hdevice.trans hcarries.1, henvelope.trans hcarries.2⟩
    · cases hstarted
  refine ⟨hf.showing.step op, ?_, hf.checked_append _, carried⟩
  show (op.step s.commands.live).ingress.sessionManager.Heard _
  have quiet (hsame : (op.step s.commands.live).ingress = s.commands.live.ingress)
      (hemit : s.emit (.transport op) = []) :
      (op.step s.commands.live).ingress.sessionManager.Heard (h ++ s.emit (.transport op)) := by
    rw [hsame, hemit, List.append_nil]
    exact hf.heard
  cases op with
  | accept connectionId outgoing closed envelope =>
    by_cases hannounces : envelope.Announces
    · obtain ⟨-, hmanager, -⟩ := @LiveState.acceptEnvelope_announcing s.commands.live connectionId
        outgoing closed envelope hannounces
      rw [LiveOp.step, hmanager,
        s.commands.live.ingress.handleEnvelope_sessions (LiveState.valid_of_announces hannounces)]
      simp only [emit, if_pos hannounces]
      exact hf.heard.handleEnvelope envelope
    · obtain ⟨-, hingress, -⟩ := @LiveState.acceptEnvelope_quiet s.commands.live connectionId
        outgoing closed envelope hannounces
      exact quiet hingress (if_neg hannounces)
  | disconnect connectionId deviceId =>
    refine quiet ?_ rfl
    rcases s.commands.live.disconnect_cases connectionId deviceId with hsame | ⟨d, hgone⟩
    · rw [LiveOp.step, hsame]
    · rw [LiveOp.step, hgone]
  | disconnectConnection connectionId =>
    refine quiet ?_ rfl
    apply LiveState.disconnectConnection_keeps (P := fun s' => s'.ingress = s.commands.live.ingress)
    · intro s' c deviceId hs'
      rcases s'.disconnect_cases c deviceId with hsame | ⟨d, hgone⟩
      · rw [hsame]
        exact hs'
      · rw [hgone]
        exact hs'
    · rfl

theorem step (hf : s.Follows h) (act : InvokeAct) : (s.step act).Follows (h ++ s.emit act) := by
  cases act with
  | invoke n request => exact hf.invoke n request
  | dispatch n =>
    have none : s.emit (.dispatch n) = [] := rfl
    rw [none, List.append_nil, InvokeState.step]
    split
    · exact hf
    · next command hcommand =>
      refine hf.callers _ (by simp) ?_
      intro m deviceId envelope he
      cases he
      exact ⟨command, hcommand, rfl, rfl⟩
  | call n step =>
    have none : s.emit (.call n step) = [] := rfl
    rw [none, List.append_nil]
    exact hf.callers (.call n step) (by simp) (by simp)
  | transport op => exact hf.transport op

end InvokeState.Follows

theorem follows_run (acts : List InvokeAct) :
    (run InvokeState.step .start acts).Follows (invokeEvents acts) := by
  have start : InvokeState.start.Follows [] := by
    refine ⟨⟨CompanionSessionManager.wellKeyed_default, ?_⟩, ?_, ?_, ?_⟩
    · intro deviceId device hfind
      cases hfind
    · intro deviceId session hsession
      simp [InvokeState.start, Commands.start, LiveState.start, LiveState.new, CompanionIngress.new,
        CompanionSessionManager.default] at hsession
    · intro n command hcommand
      simp [InvokeState.start] at hcommand
    · intro n call hcall
      simp [InvokeState.start, Commands.start] at hcall
  have h := run_history InvokeState.Follows (fun _ _ act hf => hf.step act) acts start
  rwa [List.nil_append] at h

/-- A phone that says hello and lists media volume without any operation. -/
def modestList : QuicEnvelope :=
  coreEnvelope "capabilities" none (some "phone") .capabilityList (.object
    [("capabilities", .array [.object [("id", .string "android.volume.media"),
      ("operations", .array [])]])])

def setVolume : IpcRequest :=
  ⟨"7", "device.invoke", .object [("deviceId", .string "phone"),
    ("capabilityId", .string "android.volume.media"), ("operation", .string "volume.set")]⟩

def setVolumeCommand : CompanionCommandDispatch :=
  ⟨"7", "phone", "android.volume.media", "volume.set", .object []⟩

def invokeModest : List InvokeAct :=
  [.transport (.accept 1 1 false (sampleHello "phone")), .transport (.accept 1 1 false modestList),
    .invoke 0 setVolume, .dispatch 0, .call 0 .register]

theorem invokeModest_sends :
    (run InvokeState.step .start invokeModest).Sends (.call 0 (.send false)) 0
      (buildCommandRequestEnvelope setVolumeCommand) :=
  ⟨rfl, _, ⟨1, 1⟩, rfl, rfl, rfl⟩

end AdbControl.Companion
