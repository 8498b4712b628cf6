import AdbControl.Framework.Keyed
import AdbControl.Framework.Outcome
import AdbControl.Capability
import AdbControl.Companion.Protocol

namespace AdbControl.Companion

open Framework

inductive ConnectionState
  | disconnected | connecting | handshaking | ready | degraded | failed
  deriving DecidableEq, Repr

def ConnectionState.name : ConnectionState → String
  | disconnected => "disconnected"
  | connecting => "connecting"
  | handshaking => "handshaking"
  | ready => "ready"
  | degraded => "degraded"
  | failed => "failed"

structure CompanionDevice where
  deviceId : String
  displayName : String
  appVersion : String
  androidSdk : UInt32
  connectionState : ConnectionState
  capabilities : List Capability
  permissionStates : List CapabilityPermissionState
  deriving DecidableEq, Repr

structure CompanionSession where
  deviceId : String
  displayName : String
  appVersion : String
  androidSdk : UInt32
  connectionState : ConnectionState
  capabilities : List Capability
  permissionStates : List CapabilityPermissionState
  deriving DecidableEq, Repr

def CompanionSession.toDevice (s : CompanionSession) : CompanionDevice :=
  ⟨s.deviceId, s.displayName, s.appVersion, s.androidSdk, s.connectionState, s.capabilities,
    s.permissionStates⟩

structure AnnouncedCapability where
  id : String
  operations : List String

structure AnnouncedPermissionState where
  capabilityId : String
  granted : Bool
  missingPermissions : List String
  missingSpecialGrants : List String
  userConsentRequired : Bool

/-- A field that may be missing, and then is the default. -/
def defaulted {α : Type} (default : α) (decode : Value → Option α) : Option Value → Option α
  | none => some default
  | some v => decode v

/-- A second name of a field. -/
def withAlias (name other : String) : Value → Value
  | .object members => .object (members.map (fun m => if m.1 = other then (name, m.2) else m))
  | v => v

def AnnouncedCapability.ofJson (v : Value) : Option AnnouncedCapability := do
  let [id, operations] ← v.structFields ["id", "operations"] | none
  let id ← id.bind Value.asStr
  let operations ← defaulted [] Value.asStrings operations
  some ⟨id, operations⟩

def AnnouncedPermissionState.ofJson (v : Value) : Option AnnouncedPermissionState := do
  let [capabilityId, granted, missingPermissions, missingSpecialGrants, userConsentRequired] ←
    (withAlias "userConsentRequired" "requiresUserConsent" v).structFields
      ["capabilityId", "granted", "missingPermissions", "missingSpecialGrants",
        "userConsentRequired"] | none
  let capabilityId ← capabilityId.bind Value.asStr
  let granted ← granted.bind Value.asBool
  let missingPermissions ← defaulted [] Value.asStrings missingPermissions
  let missingSpecialGrants ← defaulted [] Value.asStrings missingSpecialGrants
  let userConsentRequired ← defaulted false Value.asBool userConsentRequired
  some ⟨capabilityId, granted, missingPermissions, missingSpecialGrants, userConsentRequired⟩

def parseRequiredPayloadField {α : Type} (decode : Value → Option α) (payload : Value)
    (fieldName errorCode message : String) : Except AppError (List α) :=
  match payload.get? fieldName with
  | none =>
    .error ⟨errorCode, message, "companion.session", false,
      some ("Missing required payload field: " ++ fieldName ++ ".")⟩
  | some v =>
    match v.asArray.bind (·.mapM decode) with
    | some items => .ok items
    | none => .error ⟨errorCode, message, "companion.session", false, none⟩

def requireDeviceId (envelope : QuicEnvelope) : Except AppError String :=
  match envelope.deviceId.filter (fun deviceId => !isBlank deviceId) with
  | some deviceId => .ok deviceId
  | none =>
    .error ⟨"COMPANION_DEVICE_ID_MISSING",
      "Companion envelope deviceId is required for session state messages.", "companion.session",
      false, none⟩

def ack (traceId : Option String) (deviceId sourceMessageId : String) (payload : Value) :
    QuicEnvelope :=
  coreEnvelope ("ack-" ++ sourceMessageId) traceId (some deviceId) .commandResponse payload

/-- The catalog row of an announced capability: descriptions, transport and permission
requirements are Core's own. -/
def resolveCapability (announcement : AnnouncedCapability) : Except AppError Capability :=
  match androidCompanionCapabilityCatalog.find? (fun c => c.id == announcement.id) with
  | none =>
    .error ⟨"COMPANION_CAPABILITY_UNKNOWN",
      "Companion announced an unknown capability: " ++ announcement.id ++ ".",
      "companion.session", false, none⟩
  | some capability =>
    if announcement.operations.any (fun operation => !capability.operations.contains operation) then
      .error ⟨"COMPANION_CAPABILITY_OPERATION_INVALID",
        "Companion capability " ++ announcement.id ++
          " announced an operation outside the Core catalog.", "companion.session", false, none⟩
    else .ok capability

def resolvePermissionState (announcement : AnnouncedPermissionState) :
    Except AppError CapabilityPermissionState :=
  match androidCompanionCapabilityCatalog.find? (fun c => c.id == announcement.capabilityId) with
  | none =>
    .error ⟨"COMPANION_PERMISSION_CAPABILITY_UNKNOWN",
      "Companion reported permission state for an unknown capability: " ++
        announcement.capabilityId ++ ".", "companion.session", false, none⟩
  | some capability =>
    .ok ⟨announcement.capabilityId, announcement.granted,
      capability.permission.androidPermissions, announcement.missingPermissions,
      capability.permission.specialPermissions.filter
        (fun grant => !announcement.missingSpecialGrants.contains grant),
      announcement.missingSpecialGrants, announcement.userConsentRequired⟩

/-- The hello of an envelope, if Core takes it. -/
def checkHello (envelope : QuicEnvelope) : Except AppError CompanionHello :=
  match CompanionHello.ofJson envelope.payload with
  | none =>
    .error ⟨"COMPANION_HELLO_INVALID", "Companion hello payload is invalid.",
      "companion.session", false, none⟩
  | some hello =>
    if (envelope.deviceId.filter (fun d => !isBlank d)).any (fun d => d != hello.deviceId) then
      .error ⟨"COMPANION_HELLO_DEVICE_ID_MISMATCH",
        "Companion hello envelope deviceId must match payload deviceId.", "companion.session",
        false, none⟩
    else if !hello.supportedProtocolVersions.contains companionProtocolVersion then
      .error ⟨"COMPANION_PROTOCOL_VERSION_UNSUPPORTED",
        "Companion device " ++ hello.deviceId ++ " does not support protocol version " ++
          toString companionProtocolVersion ++ ".", "companion.session", false, none⟩
    else .ok hello

def CompanionHello.toSession (hello : CompanionHello) : CompanionSession :=
  ⟨hello.deviceId, hello.deviceName, hello.appVersion, hello.androidSdk, .handshaking, [], []⟩

def helloAck (traceId : Option String) (deviceId : String) : QuicEnvelope :=
  coreEnvelope ("hello-ack-" ++ deviceId) traceId (some deviceId) .helloAck (.object
    [("accepted", .bool true),
      ("selectedProtocolVersion", .number (.posInt companionProtocolVersion.toNat)),
      ("serverName", .string "ADBControl Core"),
      ("nextRequiredMessages", .array [.string "capabilityList", .string "permissionState"])])

/-- The device that the envelope registers as a hello. -/
def helloDevice (envelope : QuicEnvelope) : Option String :=
  if envelope.kind = .hello then (checkHello envelope).toOption.map CompanionHello.deviceId
  else none

/-- The sessions by device id. -/
structure CompanionSessionManager where
  sessions : Keyed String CompanionSession

namespace CompanionSessionManager

def default : CompanionSessionManager := ⟨∅⟩

def getSession (m : CompanionSessionManager) (deviceId : String) :
    Except AppError CompanionSession :=
  match m.sessions[deviceId]? with
  | some session => .ok session
  | none =>
    .error ⟨"COMPANION_SESSION_NOT_CONNECTED",
      "Android companion QUIC session is not connected for device " ++ deviceId ++ ".",
      "companion.session", true,
      some "Complete companion hello/helloAck before synchronizing capability state."⟩

/-- The devices of all sessions; the source lists them in the arbitrary order of a `HashMap`. -/
def devices (m : CompanionSessionManager) : List CompanionDevice :=
  m.sessions.toList.map (fun e => e.2.toDevice)

def handleHello (m : CompanionSessionManager) (envelope : QuicEnvelope) :
    CompanionSessionManager × Except AppError QuicEnvelope :=
  match checkHello envelope with
  | .error e => (m, .error e)
  | .ok hello =>
    ({ m with sessions := m.sessions.insert hello.deviceId hello.toSession },
      .ok (helloAck envelope.traceId hello.deviceId))

/-- What `handle_capability_list` and `handle_permission_state` share: the announced items are
resolved against the catalog, and only then is the session looked up and changed. -/
def handleState {α β : Type} (m : CompanionSessionManager) (envelope : QuicEnvelope)
    (decode : Value → Option α) (resolve : α → Except AppError β)
    (fieldName invalidCode invalidMessage early : String)
    (change : CompanionSession → List β → CompanionSession) (counter : String) :
    CompanionSessionManager × Except AppError QuicEnvelope :=
  let checked : Except AppError (String × List β) := do
    let deviceId ← requireDeviceId envelope
    let announcements ← parseRequiredPayloadField decode envelope.payload fieldName invalidCode
      invalidMessage
    let items ← announcements.mapM resolve
    pure (deviceId, items)
  match checked with
  | .error e => (m, .error e)
  | .ok (deviceId, items) =>
    match m.sessions[deviceId]? with
    | none =>
      (m, .error ⟨"COMPANION_SESSION_NOT_CONNECTED",
        early ++ " arrived before hello for device " ++ deviceId ++ ".", "companion.session", true,
        none⟩)
    | some session =>
      ({ m with sessions := m.sessions.insert deviceId (change session items) },
        .ok (ack envelope.traceId deviceId envelope.messageId (.object
          [("accepted", .bool true), (counter, .number (.posInt items.length))])))

def handleCapabilityList (m : CompanionSessionManager) (envelope : QuicEnvelope) :
    CompanionSessionManager × Except AppError QuicEnvelope :=
  m.handleState envelope AnnouncedCapability.ofJson resolveCapability "capabilities"
    "COMPANION_CAPABILITY_SCHEMA_INVALID" "Companion capabilityList payload is invalid."
    "Capability list"
    (fun session capabilities => { session with
      capabilities
      connectionState :=
        if session.permissionStates.isEmpty then session.connectionState else .ready })
    "registeredCapabilityCount"

def handlePermissionState (m : CompanionSessionManager) (envelope : QuicEnvelope) :
    CompanionSessionManager × Except AppError QuicEnvelope :=
  m.handleState envelope AnnouncedPermissionState.ofJson resolvePermissionState "states"
    "COMPANION_PERMISSION_STATE_INVALID" "Companion permissionState payload is invalid."
    "Permission state"
    (fun session permissionStates => { session with
      permissionStates
      connectionState :=
        if session.capabilities.isEmpty then session.connectionState else .ready })
    "updatedStateCount"

def handleHeartbeat (m : CompanionSessionManager) (envelope : QuicEnvelope) :
    Except AppError QuicEnvelope := do
  let deviceId ← requireDeviceId envelope
  let session ← m.getSession deviceId
  pure (coreEnvelope ("heartbeat-ack-" ++ envelope.messageId) envelope.traceId (some deviceId)
    .heartbeat (.object [("receivedMessageId", .string envelope.messageId),
      ("serverState", .string session.connectionState.name)]))

def handleEnvelope (m : CompanionSessionManager) (envelope : QuicEnvelope) :
    CompanionSessionManager × Except AppError QuicEnvelope :=
  match validateQuicEnvelope envelope with
  | .error e => (m, .error e)
  | .ok () =>
    match envelope.kind with
    | .hello => m.handleHello envelope
    | .capabilityList => m.handleCapabilityList envelope
    | .permissionState => m.handlePermissionState envelope
    | .heartbeat => (m, m.handleHeartbeat envelope)
    | unsupported =>
      (m, .error ⟨"COMPANION_SESSION_MESSAGE_UNSUPPORTED",
        "Companion session manager does not accept message kind: " ++ unsupported.debug,
        "companion.session", false, none⟩)

section

variable {m : CompanionSessionManager} {envelope : QuicEnvelope}

/-- Every session is kept under its own device id. -/
def WellKeyed (m : CompanionSessionManager) : Prop :=
  ∀ (deviceId : String) (session : CompanionSession),
    m.sessions[deviceId]? = some session → session.deviceId = deviceId

theorem wellKeyed_default : WellKeyed default := by
  intro deviceId session h
  simp [default] at h

theorem WellKeyed.insert (h : m.WellKeyed) (session : CompanionSession) :
    WellKeyed { m with sessions := m.sessions.insert session.deviceId session } :=
  Keyed.forall_insert h rfl

theorem mem_devices_ids (h : m.WellKeyed) (deviceId : String) :
    deviceId ∈ m.devices.map CompanionDevice.deviceId ↔ deviceId ∈ m.sessions := by
  rw [Keyed.mem_iff_lookup]
  simp only [devices, List.map_map, List.mem_map, Function.comp_apply]
  constructor
  · intro hmem
    obtain ⟨⟨key, session⟩, hentry, hid⟩ := hmem
    rw [Std.ExtTreeMap.mem_toList_iff_getElem?_eq_some] at hentry
    have hkey : session.deviceId = key := h key session hentry
    have hid : session.deviceId = deviceId := hid
    rw [← hid, hkey]
    exact ⟨session, hentry⟩
  · intro hfound
    obtain ⟨session, hfound⟩ := hfound
    refine ⟨(deviceId, session), ?_, h deviceId session hfound⟩
    rw [Std.ExtTreeMap.mem_toList_iff_getElem?_eq_some]
    exact hfound

theorem parseRequiredPayloadField_ok {α : Type} {decode : Value → Option α} {payload : Value}
    {fieldName errorCode message : String} {items : List α} :
    parseRequiredPayloadField decode payload fieldName errorCode message = .ok items ↔
      ∃ v, payload.get? fieldName = some v ∧ v.asArray.bind (·.mapM decode) = some items := by
  unfold parseRequiredPayloadField
  cases payload.get? fieldName with
  | none => simp
  | some v => cases hv : v.asArray.bind (·.mapM decode) <;> simp [hv]

/-- The list of a state message, announced by the device it names and resolved item by item. -/
structure Resolves {α β : Type} (envelope : QuicEnvelope) (decode : Value → Option α)
    (resolve : α → Except AppError β) (fieldName deviceId : String) (items : List β) : Prop where
  named : requireDeviceId envelope = .ok deviceId
  listed : ∃ v announcements, envelope.payload.get? fieldName = some v ∧
    v.asArray.bind (·.mapM decode) = some announcements ∧ announcements.mapM resolve = .ok items

/-- A state message is refused and changes nothing, or changes the session it names by what its
list resolves to. -/
theorem handleState_spec {α β : Type} (m : CompanionSessionManager) (envelope : QuicEnvelope)
    (decode : Value → Option α) (resolve : α → Except AppError β)
    (fieldName invalidCode invalidMessage early : String)
    (change : CompanionSession → List β → CompanionSession) (counter : String) :
    (∃ e, m.handleState envelope decode resolve fieldName invalidCode invalidMessage early change
      counter = (m, .error e)) ∨
    ∃ deviceId session items reply, Resolves envelope decode resolve fieldName deviceId items ∧
      m.sessions[deviceId]? = some session ∧
      m.handleState envelope decode resolve fieldName invalidCode invalidMessage early change
        counter = ({ m with sessions := m.sessions.insert deviceId (change session items) },
          .ok reply) := by
  simp only [handleState]
  split
  · exact Or.inl ⟨_, rfl⟩
  · next deviceId items hchecked =>
    obtain ⟨d, hd, hrest⟩ := bind_eq_ok.mp hchecked
    obtain ⟨announcements, hparsed, hrest⟩ := bind_eq_ok.mp hrest
    obtain ⟨resolved, hresolved, hpair⟩ := bind_eq_ok.mp hrest
    cases hpair
    obtain ⟨v, hv, hannounced⟩ := parseRequiredPayloadField_ok.mp hparsed
    cases hsession : m.sessions[deviceId]? with
    | none => exact Or.inl ⟨_, rfl⟩
    | some session =>
      exact Or.inr ⟨deviceId, session, items, _, ⟨hd, v, announcements, hv, hannounced, hresolved⟩,
        hsession, rfl⟩

/-- A list that resolves is taken when its device has a session. -/
theorem handleState_of_resolves {α β : Type} {decode : Value → Option α}
    {resolve : α → Except AppError β} {fieldName deviceId : String} {session : CompanionSession}
    {items : List β} (h : Resolves envelope decode resolve fieldName deviceId items)
    (found : m.sessions[deviceId]? = some session) (invalidCode invalidMessage early : String)
    (change : CompanionSession → List β → CompanionSession) (counter : String) :
    m.handleState envelope decode resolve fieldName invalidCode invalidMessage early change counter =
      ({ m with sessions := m.sessions.insert deviceId (change session items) },
        .ok (ack envelope.traceId deviceId envelope.messageId (.object
          [("accepted", .bool true), (counter, .number (.posInt items.length))]))) := by
  obtain ⟨v, announcements, hv, hannounced, hresolved⟩ := h.listed
  have parsed : parseRequiredPayloadField decode envelope.payload fieldName invalidCode
      invalidMessage = .ok announcements := parseRequiredPayloadField_ok.mpr ⟨v, hv, hannounced⟩
  have checked : (do
      let deviceId ← requireDeviceId envelope
      let announcements ← parseRequiredPayloadField decode envelope.payload fieldName invalidCode
        invalidMessage
      let items ← announcements.mapM resolve
      pure (deviceId, items) : Except AppError (String × List β)) = .ok (deviceId, items) :=
    bind_eq_ok.mpr ⟨deviceId, h.named, bind_eq_ok.mpr ⟨announcements, parsed,
      bind_eq_ok.mpr ⟨items, hresolved, rfl⟩⟩⟩
  simp only [handleState, checked, found]

/-- What an envelope that is taken does to the sessions. -/
inductive Takes (m : CompanionSessionManager) (envelope : QuicEnvelope) :
    CompanionSessionManager → Prop
  | hello (hello : CompanionHello) (kind : envelope.kind = .hello)
      (checked : checkHello envelope = .ok hello) :
      Takes m envelope { m with sessions := m.sessions.insert hello.deviceId hello.toSession }
  | capabilityList (deviceId : String) (session : CompanionSession) (items : List Capability)
      (kind : envelope.kind = .capabilityList) (found : m.sessions[deviceId]? = some session)
      (resolved : Resolves envelope AnnouncedCapability.ofJson resolveCapability "capabilities"
        deviceId items) :
      Takes m envelope { m with sessions := m.sessions.insert deviceId { session with
        capabilities := items
        connectionState :=
          if session.permissionStates.isEmpty then session.connectionState else .ready } }
  | permissionState (deviceId : String) (session : CompanionSession)
      (items : List CapabilityPermissionState) (kind : envelope.kind = .permissionState)
      (found : m.sessions[deviceId]? = some session)
      (resolved : Resolves envelope AnnouncedPermissionState.ofJson resolvePermissionState "states"
        deviceId items) :
      Takes m envelope { m with sessions := m.sessions.insert deviceId { session with
        permissionStates := items
        connectionState :=
          if session.capabilities.isEmpty then session.connectionState else .ready } }
  | heartbeat (deviceId : String) (kind : envelope.kind = .heartbeat)
      (named : requireDeviceId envelope = .ok deviceId) : Takes m envelope m

/-- Every envelope is refused and changes nothing, or is valid and taken. -/
theorem handleEnvelope_spec (m : CompanionSessionManager) (envelope : QuicEnvelope) :
    (∃ e, m.handleEnvelope envelope = (m, .error e)) ∨
    validateQuicEnvelope envelope = .ok () ∧ (∃ reply, (m.handleEnvelope envelope).2 = .ok reply) ∧
      m.Takes envelope (m.handleEnvelope envelope).1 := by
  cases hvalid : validateQuicEnvelope envelope with
  | error e => exact Or.inl ⟨e, by rw [handleEnvelope, hvalid]⟩
  | ok u =>
    cases hkind : envelope.kind with
    | hello =>
      cases hcheck : checkHello envelope with
      | error e => exact Or.inl ⟨e, by simp only [handleEnvelope, hvalid, hkind, handleHello, hcheck]⟩
      | ok hello =>
        simp only [handleEnvelope, hvalid, hkind, handleHello, hcheck]
        exact Or.inr ⟨trivial, ⟨_, rfl⟩, Takes.hello hello hkind hcheck⟩
    | capabilityList =>
      simp only [handleEnvelope, hvalid, hkind, handleCapabilityList]
      rcases m.handleState_spec envelope AnnouncedCapability.ofJson resolveCapability
        "capabilities" _ _ _ _ _ with ⟨e, he⟩ |
        ⟨deviceId, session, items, reply, hresolves, hfound, hset⟩
      · exact Or.inl ⟨e, he⟩
      · rw [hset]
        exact Or.inr ⟨trivial, ⟨reply, rfl⟩,
          Takes.capabilityList deviceId session items hkind hfound hresolves⟩
    | permissionState =>
      simp only [handleEnvelope, hvalid, hkind, handlePermissionState]
      rcases m.handleState_spec envelope AnnouncedPermissionState.ofJson resolvePermissionState
        "states" _ _ _ _ _ with ⟨e, he⟩ |
        ⟨deviceId, session, items, reply, hresolves, hfound, hset⟩
      · exact Or.inl ⟨e, he⟩
      · rw [hset]
        exact Or.inr ⟨trivial, ⟨reply, rfl⟩,
          Takes.permissionState deviceId session items hkind hfound hresolves⟩
    | heartbeat =>
      simp only [handleEnvelope, hvalid, hkind]
      cases hreply : m.handleHeartbeat envelope with
      | error e => exact Or.inl ⟨e, rfl⟩
      | ok reply =>
        obtain ⟨deviceId, hd, -⟩ := bind_eq_ok.mp hreply
        exact Or.inr ⟨trivial, ⟨reply, rfl⟩, Takes.heartbeat deviceId hkind hd⟩
    | _ => exact Or.inl ⟨_, by simp only [handleEnvelope, hvalid, hkind]; rfl⟩

/-- One session was there, and is rewritten with its device id kept. -/
def Rewrites (m m' : CompanionSessionManager) : Prop :=
  ∃ (deviceId : String) (session session' : CompanionSession),
    m.sessions[deviceId]? = some session ∧ session'.deviceId = session.deviceId ∧
    m' = { m with sessions := m.sessions.insert deviceId session' }

/-- What one envelope can do to the sessions: a taken hello writes a fresh session under its
device id, a taken capability or permission message rewrites a session that is there, and
everything else changes nothing. -/
theorem handleEnvelope_cases (m : CompanionSessionManager)
    (hvalid : validateQuicEnvelope envelope = .ok ()) :
    (∃ hello : CompanionHello, helloDevice envelope = some hello.deviceId ∧
      (m.handleEnvelope envelope).1 =
        { m with sessions := m.sessions.insert hello.deviceId hello.toSession }) ∨
    (helloDevice envelope = none ∧
      (m.Rewrites (m.handleEnvelope envelope).1 ∨ (m.handleEnvelope envelope).1 = m)) := by
  have other (hkind : envelope.kind ≠ .hello) : helloDevice envelope = none := by
    simp [helloDevice, hkind]
  rcases m.handleEnvelope_spec envelope with ⟨e, he⟩ | ⟨-, -, htakes⟩
  · refine Or.inr ⟨?_, Or.inr (by rw [he])⟩
    by_cases hkind : envelope.kind = .hello
    · simp only [handleEnvelope, hvalid, hkind, handleHello] at he
      cases hcheck : checkHello envelope with
      | error e' => simp [helloDevice, hkind, hcheck, Except.toOption]
      | ok hello => simp [hcheck] at he
    · exact other hkind
  · generalize (m.handleEnvelope envelope).1 = m' at htakes ⊢
    cases htakes with
    | hello hello kind checked =>
      exact Or.inl ⟨hello, by simp [helloDevice, kind, checked, Except.toOption], rfl⟩
    | capabilityList deviceId session items kind found _ =>
      exact Or.inr ⟨other (by simp [kind]), Or.inl ⟨deviceId, session, _, found, (by rfl), rfl⟩⟩
    | permissionState deviceId session items kind found _ =>
      exact Or.inr ⟨other (by simp [kind]), Or.inl ⟨deviceId, session, _, found, (by rfl), rfl⟩⟩
    | heartbeat deviceId kind _ => exact Or.inr ⟨other (by simp [kind]), Or.inr rfl⟩

theorem mem_handleEnvelope (m : CompanionSessionManager)
    (hvalid : validateQuicEnvelope envelope = .ok ()) (deviceId : String) :
    deviceId ∈ (m.handleEnvelope envelope).1.sessions ↔
      deviceId ∈ m.sessions ∨ helloDevice envelope = some deviceId := by
  rcases m.handleEnvelope_cases hvalid with ⟨hello, hd, hset⟩ |
    ⟨hd, ⟨d, session, session', hfound, -, hset⟩ | hset⟩
  · rw [hset, hd, Keyed.mem_insert_iff, Option.some.injEq, eq_comm, or_comm]
  · have hmem : d ∈ m.sessions := (Keyed.mem_iff_lookup m.sessions d).mpr ⟨session, hfound⟩
    rw [hset, hd, Keyed.mem_insert_iff]
    constructor
    · intro h
      exact Or.inl (h.elim (fun he => he ▸ hmem) id)
    · intro h
      exact Or.inr (h.resolve_right (by simp))
  · simp [hset, hd]

theorem WellKeyed.handleEnvelope (h : m.WellKeyed)
    (hvalid : validateQuicEnvelope envelope = .ok ()) :
    (m.handleEnvelope envelope).1.WellKeyed := by
  rcases m.handleEnvelope_cases hvalid with ⟨hello, -, hset⟩ |
    ⟨-, ⟨d, session, session', hfound, hid, hset⟩ | hset⟩
  · rw [hset]
    exact h.insert hello.toSession
  · have hd : d = session'.deviceId := by rw [hid, h d session hfound]
    rw [hset, hd]
    exact h.insert session'
  · rw [hset]
    exact h

end

end CompanionSessionManager

end AdbControl.Companion
