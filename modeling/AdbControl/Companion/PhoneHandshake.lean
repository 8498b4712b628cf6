import AdbControl.Companion.SessionInvariants

namespace AdbControl.Companion

open Framework

/-- A capability that the phone implements. -/
structure CompanionCapability where
  id : String
  title : String
  androidPermissions : List String
  specialGrants : List String
  sensitivity : CapabilitySensitivity
  operations : List String
  requiresUserConsent : Bool
  deriving DecidableEq, Repr

/-- `sensitivity.name.lowercase()`. -/
def CapabilitySensitivity.lowercase : CapabilitySensitivity → String
  | .low => "low"
  | .medium => "medium"
  | .high => "high"
  | .critical => "critical"

def AndroidCapabilityCatalog.defaultCapabilities : List CompanionCapability := [
  ⟨"android.device.power", "设备电源与锁屏状态", ["android.permission.WAKE_LOCK"], [], .low,
    ["device.wake", "device.state"], false⟩,
  ⟨"android.input.ime", "输入法与文本注入", [], ["input-method-service"], .high,
    ["input.text", "input.key"], true⟩,
  ⟨"android.file.read", "文件读取",
    ["android.permission.READ_MEDIA_IMAGES", "android.permission.READ_MEDIA_VIDEO",
      "android.permission.READ_MEDIA_AUDIO"],
    ["scoped-storage-or-document-picker"], .high, ["file.read"], true⟩,
  ⟨"android.file.write", "文件写入", [], ["scoped-storage-or-document-picker"], .high,
    ["file.write"], true⟩,
  ⟨"android.camera.stream", "相机画面", ["android.permission.CAMERA"], [], .critical,
    ["camera.open", "camera.close"], true⟩,
  ⟨"android.audio.record", "音频录制", ["android.permission.RECORD_AUDIO"], [], .critical,
    ["audio.record.start", "audio.record.stop"], true⟩,
  ⟨"android.sms.read", "短信读取", ["android.permission.READ_SMS"], [], .critical,
    ["sms.read"], true⟩,
  ⟨"android.sms.send", "短信发送", ["android.permission.SEND_SMS"], [], .critical,
    ["sms.send"], true⟩,
  ⟨"android.phone.call", "电话拨号",
    ["android.permission.CALL_PHONE", "android.permission.READ_PHONE_STATE"], [], .critical,
    ["phone.call"], true⟩,
  ⟨"android.clipboard.read", "剪贴板读取", [], ["foreground-required"], .high,
    ["clipboard.read"], true⟩,
  ⟨"android.clipboard.write", "剪贴板写入", [], ["sensitive-clip-flag"], .high,
    ["clipboard.write"], true⟩,
  ⟨"android.sensor.motion", "运动与方向传感器", [], [], .medium,
    ["sensor.subscribe", "sensor.unsubscribe"], false⟩,
  ⟨"android.app.list", "应用列表", [], ["package-visibility-query"], .medium,
    ["app.list"], true⟩,
  ⟨"android.volume.media", "媒体音量控制", [], [], .medium,
    ["volume.get", "volume.set"], false⟩,
  ⟨"android.ui.background_surface", "后台界面唤起", [], ["background-launch-policy"], .high,
    ["ui.surface.show"], true⟩,
  ⟨"android.ui.overlay", "悬浮窗", ["android.permission.SYSTEM_ALERT_WINDOW"],
    ["draw-over-apps"], .high, ["overlay.show", "overlay.hide"], true⟩,
  ⟨"android.screen.projection", "屏幕投影", [], ["media-projection-consent"], .critical,
    ["projection.start", "projection.stop", "projection.status"], true⟩,
  ⟨"android.accessibility.control", "无障碍辅助控制", [], ["accessibility-service"], .critical,
    ["accessibility.status", "accessibility.global.back", "accessibility.global.home",
      "accessibility.global.recents", "accessibility.global.notifications",
      "accessibility.global.quickSettings", "accessibility.global.powerDialog",
      "accessibility.touch.tap", "accessibility.touch.swipe"], true⟩,
  ⟨"android.intent.chain_launch", "链式 Intent 启动", [], ["explicit-intent-only"], .high,
    ["intent.chainLaunch"], true⟩]

structure PermissionEvaluation where
  capabilityId : String
  granted : Bool
  missingPermissions : List String
  missingSpecialGrants : List String
  deriving DecidableEq, Repr

/-- What Android answers the phone's `PermissionGuard`. -/
structure PermissionGuard where
  checkSelfPermission : String → Bool
  canDrawOverlays : Bool
  isAccessibilityServiceEnabled : Bool

namespace PermissionGuard

def hasRuntimePermission (guard : PermissionGuard) (permission : String) : Bool :=
  if permission = "android.permission.SYSTEM_ALERT_WINDOW" then true
  else guard.checkSelfPermission permission

def hasSpecialGrant (guard : PermissionGuard) (grant : String) : Bool :=
  match grant with
  | "draw-over-apps" => guard.canDrawOverlays
  | "foreground-required" => true
  | "sensitive-clip-flag" => true
  | "package-visibility-query" => true
  | "scoped-storage-or-document-picker" => true
  | "input-method-service" => true
  | "accessibility-service" => guard.isAccessibilityServiceEnabled
  | "background-launch-policy" => true
  | "explicit-intent-only" => true
  | "media-projection-consent" => true
  | _ => false

def evaluate (guard : PermissionGuard) (capability : CompanionCapability) : PermissionEvaluation :=
  let missingRuntimePermissions :=
    capability.androidPermissions.filter (fun p => !guard.hasRuntimePermission p)
  let missingSpecialGrants :=
    capability.specialGrants.filter (fun grant => !guard.hasSpecialGrant grant)
  ⟨capability.id, missingRuntimePermissions.isEmpty && missingSpecialGrants.isEmpty,
    missingRuntimePermissions, missingSpecialGrants⟩

end PermissionGuard

/-- The phone's service, as far as its first three envelopes depend on it. -/
structure QuicCompanionService where
  versionName : String
  sdkInt : Nat
  certificateFingerprintSha256 : Option String
  permissionGuard : PermissionGuard

/-- `QuicJsonCodec.toJsonValue` on a list of texts, and on a text that may be `null`. -/
def jsonStrings (items : List String) : Value := .array (items.map Value.string)

def jsonNullable : Option String → Value
  | none => .null
  | some s => .string s

def CompanionCapability.toJson (capability : CompanionCapability) : Value :=
  .object [("id", .string capability.id), ("title", .string capability.title),
    ("androidPermissions", jsonStrings capability.androidPermissions),
    ("specialGrants", jsonStrings capability.specialGrants),
    ("sensitivity", .string (CapabilitySensitivity.lowercase capability.sensitivity)),
    ("operations", jsonStrings capability.operations),
    ("requiresUserConsent", .bool capability.requiresUserConsent)]

def PermissionEvaluation.toJson (evaluation : PermissionEvaluation) (requiresUserConsent : Bool) :
    Value :=
  .object [("capabilityId", .string evaluation.capabilityId),
    ("granted", .bool evaluation.granted),
    ("missingPermissions", jsonStrings evaluation.missingPermissions),
    ("missingSpecialGrants", jsonStrings evaluation.missingSpecialGrants),
    ("requiresUserConsent", .bool requiresUserConsent)]

namespace QuicCompanionService

/-- A control envelope of the phone, with its default protocol and version. -/
def envelope (messageId deviceId : String) (kind : QuicMessageKind) (payload : Value) :
    QuicEnvelope :=
  ⟨"adbcontrol-companion-quic", 1, messageId, none, some deviceId, .control, kind, payload⟩

def buildHello (service : QuicCompanionService) (deviceId deviceName : String) : QuicEnvelope :=
  envelope ("hello-" ++ deviceId) deviceId .hello (.object
    [("appVersion", .string service.versionName), ("deviceId", .string deviceId),
      ("deviceName", .string deviceName), ("androidSdk", .number (.posInt service.sdkInt)),
      ("supportedProtocolVersions", .array [.number (.posInt 1)]),
      ("certificateFingerprintSha256", jsonNullable service.certificateFingerprintSha256)])

/-- `buildCapabilityListEnvelope`, for the capabilities of a catalog. -/
def capabilityListOf (service : QuicCompanionService) (rows : List CompanionCapability)
    (deviceId : String) : QuicEnvelope :=
  envelope ("capability-list-" ++ deviceId) deviceId .capabilityList (.object
    [("deviceId", .string deviceId),
      ("certificateFingerprintSha256", jsonNullable service.certificateFingerprintSha256),
      ("capabilities", .array (rows.map CompanionCapability.toJson))])

/-- `buildPermissionStateEnvelope`, for the capabilities of a catalog. -/
def permissionStateOf (service : QuicCompanionService) (rows : List CompanionCapability)
    (deviceId : String) : QuicEnvelope :=
  envelope ("permission-state-" ++ deviceId) deviceId .permissionState (.object
    [("deviceId", .string deviceId),
      ("certificateFingerprintSha256", jsonNullable service.certificateFingerprintSha256),
      ("states", .array (rows.map (fun capability =>
        (service.permissionGuard.evaluate capability).toJson capability.requiresUserConsent)))])

def buildCapabilityListEnvelope (service : QuicCompanionService) (deviceId : String) :
    QuicEnvelope :=
  service.capabilityListOf AndroidCapabilityCatalog.defaultCapabilities deviceId

def buildPermissionStateEnvelope (service : QuicCompanionService) (deviceId : String) :
    QuicEnvelope :=
  service.permissionStateOf AndroidCapabilityCatalog.defaultCapabilities deviceId

/-- What `connect` sends, in its order. -/
def connect (service : QuicCompanionService) (deviceId deviceName : String) : List QuicEnvelope :=
  [service.buildHello deviceId deviceName, service.buildCapabilityListEnvelope deviceId,
    service.buildPermissionStateEnvelope deviceId]

/-- What a phone with another catalog would send. -/
def connectOf (service : QuicCompanionService) (rows : List CompanionCapability)
    (deviceId deviceName : String) : List QuicEnvelope :=
  [service.buildHello deviceId deviceName, service.capabilityListOf rows deviceId,
    service.permissionStateOf rows deviceId]

end QuicCompanionService

/-- The sessions after envelopes that are fed one after another, and the replies to them. -/
def CompanionSessionManager.exchange (m : CompanionSessionManager) :
    List QuicEnvelope → CompanionSessionManager × List (Except AppError QuicEnvelope)
  | [] => (m, [])
  | envelope :: envelopes =>
    let (next, reply) := m.handleEnvelope envelope
    let (last, replies) := next.exchange envelopes
    (last, reply :: replies)

/-- What Core keeps of a permission state that a phone reported. -/
def reported (state : CapabilityPermissionState) : PermissionEvaluation :=
  ⟨state.capabilityId, state.granted, state.missingPermissions, state.missingSpecialGrants⟩

/-- A ready session that says of the phone what its catalog and its permission guard say. -/
structure Reflects (session : CompanionSession) (guard : PermissionGuard)
    (rows : List CompanionCapability) : Prop where
  ready : session.connectionState = .ready
  capabilities : session.capabilities.map Capability.id = rows.map CompanionCapability.id
  permissionStates :
    session.permissionStates.map reported = rows.map guard.evaluate
  invocable : ∀ row ∈ rows, ∀ operation ∈ row.operations,
    ∃ c ∈ session.capabilities, c.id = row.id ∧ operation ∈ c.operations

/-- Core takes all that the phone sends, and the phone's session reflects it. -/
structure Compatible (m : CompanionSessionManager) (service : QuicCompanionService)
    (envelopes : List QuicEnvelope) (rows : List CompanionCapability) (deviceId : String) :
    Prop where
  accepted : ∀ reply ∈ (m.exchange envelopes).2, reply.isOk
  session : ∃ session, (m.exchange envelopes).1.sessions[deviceId]? = some session ∧
    Reflects session service.permissionGuard rows

/-- Core's catalog has the capability, with all its operations. -/
def CompanionCapability.Known (row : CompanionCapability) : Prop :=
  ∃ c ∈ androidCompanionCapabilityCatalog, c.id = row.id ∧
    ∀ operation ∈ row.operations, operation ∈ c.operations

instance (row : CompanionCapability) : Decidable row.Known :=
  inferInstanceAs (Decidable (∃ c ∈ androidCompanionCapabilityCatalog, c.id = row.id ∧
    ∀ operation ∈ row.operations, operation ∈ c.operations))

section Wire

theorem asStrings_jsonStrings (items : List String) : (jsonStrings items).asStrings = some items := by
  have strings : (items.map Value.string).mapM Value.asStr = some items := by
    rw [mapM_eq_some, List.forall₂_map_left_iff, List.forall₂_same]
    intro s _
    rfl
  exact strings

/-- What Core reads of a capability that the phone announces. -/
def CompanionCapability.announced (row : CompanionCapability) : AnnouncedCapability :=
  ⟨row.id, row.operations⟩

def PermissionEvaluation.announced (evaluation : PermissionEvaluation)
    (requiresUserConsent : Bool) : AnnouncedPermissionState :=
  ⟨evaluation.capabilityId, evaluation.granted, evaluation.missingPermissions,
    evaluation.missingSpecialGrants, requiresUserConsent⟩

theorem CompanionCapability.ofJson_toJson (row : CompanionCapability) :
    AnnouncedCapability.ofJson row.toJson = some row.announced := by
  have fields : row.toJson.structFields ["id", "operations"] =
      some [some (.string row.id), some (jsonStrings row.operations)] := rfl
  simp only [AnnouncedCapability.ofJson, fields, Option.bind_eq_bind, Option.bind_some,
    Value.asStr, defaulted, asStrings_jsonStrings]
  rfl

theorem PermissionEvaluation.ofJson_toJson (evaluation : PermissionEvaluation)
    (requiresUserConsent : Bool) :
    AnnouncedPermissionState.ofJson (evaluation.toJson requiresUserConsent) =
      some (evaluation.announced requiresUserConsent) := by
  have fields : (withAlias "userConsentRequired" "requiresUserConsent"
      (evaluation.toJson requiresUserConsent)).structFields
        ["capabilityId", "granted", "missingPermissions", "missingSpecialGrants",
          "userConsentRequired"] =
      some [some (.string evaluation.capabilityId), some (.bool evaluation.granted),
        some (jsonStrings evaluation.missingPermissions),
        some (jsonStrings evaluation.missingSpecialGrants), some (.bool requiresUserConsent)] := rfl
  simp only [AnnouncedPermissionState.ofJson, fields, Option.bind_eq_bind, Option.bind_some,
    Value.asStr, Value.asBool, defaulted, asStrings_jsonStrings]
  rfl

/-- A hello is taken exactly when Core can read the Android version. -/
theorem checkHello_buildHello (service : QuicCompanionService) (deviceId deviceName : String) :
    checkHello (service.buildHello deviceId deviceName) =
      if service.sdkInt < 2^32 then
        .ok ⟨service.versionName, deviceId, deviceName, UInt32.ofNat service.sdkInt, [1]⟩
      else .error ⟨"COMPANION_HELLO_INVALID", "Companion hello payload is invalid.",
        "companion.session", false, none⟩ := by
  have fields : (service.buildHello deviceId deviceName).payload.structFields
      ["appVersion", "deviceId", "deviceName", "androidSdk", "supportedProtocolVersions"] =
      some [some (.string service.versionName), some (.string deviceId),
        some (.string deviceName), some (.number (.posInt service.sdkInt)),
        some (.array [.number (.posInt 1)])] := rfl
  have versions : [Value.number (.posInt 1)].mapM (Value.asUnsigned 16) = some [1] := rfl
  by_cases hsdk : service.sdkInt < 2^32
  · have parsed : CompanionHello.ofJson (service.buildHello deviceId deviceName).payload =
        some ⟨service.versionName, deviceId, deviceName, UInt32.ofNat service.sdkInt, [1]⟩ := by
      simp only [CompanionHello.ofJson, fields, Option.bind_eq_bind, Option.bind_some,
        Value.asStr, Value.asUnsigned, if_pos hsdk, Value.asArray, versions]
      rfl
    have same : ((service.buildHello deviceId deviceName).deviceId.filter
        (fun d => !isBlank d)).any (fun d => d != deviceId) = false := by
      by_cases hblank : isBlank deviceId <;>
        simp [QuicCompanionService.buildHello, QuicCompanionService.envelope, Option.filter, hblank]
    simp only [checkHello, parsed, same, if_pos hsdk]
    rfl
  · have unread : CompanionHello.ofJson (service.buildHello deviceId deviceName).payload = none := by
      simp only [CompanionHello.ofJson, fields, Option.bind_eq_bind, Option.bind_some,
        Value.asStr, Value.asUnsigned, if_neg hsdk, Option.bind_none]
    simp only [checkHello, unread, if_neg hsdk]

end Wire

section Catalogs

theorem find?_catalog {c : Capability} (h : c ∈ androidCompanionCapabilityCatalog) :
    androidCompanionCapabilityCatalog.find? (fun c' => c'.id == c.id) = some c := by
  obtain ⟨c', hfind⟩ := Option.isSome_iff_exists.mp
    (List.find?_isSome (p := fun c' => c'.id == c.id).mpr ⟨c, h, beq_self_eq_true c.id⟩)
  have hid := List.find?_some hfind
  rw [hfind, catalog_unique (List.mem_of_find?_eq_some hfind) h (beq_iff_eq.mp hid)]

/-- Core resolves an announced capability exactly when its catalog has it. -/
theorem CompanionCapability.resolves_iff (row : CompanionCapability) :
    (∃ c, resolveCapability row.announced = .ok c) ↔ row.Known := by
  constructor
  · intro h
    obtain ⟨c, hc⟩ := h
    exact ⟨c, resolveCapability_catalog hc⟩
  · intro h
    obtain ⟨c, hmem, hid, hops⟩ := h
    have found := find?_catalog hmem
    have inside : ¬ row.announced.operations.any (fun operation => !c.operations.contains operation) := by
      rw [Bool.not_eq_true, List.any_eq_false]
      intro operation hoperation
      simpa using hops operation hoperation
    refine ⟨c, ?_⟩
    rw [hid] at found
    unfold resolveCapability
    rw [announced, found]
    exact if_neg inside

theorem CompanionCapability.Known.resolves {row : CompanionCapability} (h : row.Known)
    (guard : PermissionGuard) :
    ∃ state, resolvePermissionState ((guard.evaluate row).announced row.requiresUserConsent) =
      .ok state := by
  obtain ⟨c, hmem, hid, -⟩ := h
  have found := find?_catalog hmem
  rw [hid] at found
  unfold resolvePermissionState
  rw [PermissionEvaluation.announced, PermissionGuard.evaluate, found]
  exact ⟨_, rfl⟩

/-- A permission state is kept as the phone reported it. -/
theorem reported_of_resolved {evaluation : PermissionEvaluation} {requiresUserConsent : Bool}
    {state : CapabilityPermissionState}
    (h : resolvePermissionState (evaluation.announced requiresUserConsent) = .ok state) :
    reported state = evaluation := by
  unfold resolvePermissionState at h
  split at h
  · cases h
  · cases h
    rfl

end Catalogs

section Handshake

variable (m : CompanionSessionManager) (service : QuicCompanionService)
  (rows : List CompanionCapability) (deviceId deviceName : String)

theorem requireDeviceId_envelope (messageId : String) (kind : QuicMessageKind) (payload : Value)
    (d : String) :
    requireDeviceId (QuicCompanionService.envelope messageId deviceId kind payload) = .ok d ↔
      isBlank deviceId = false ∧ d = deviceId := by
  by_cases hblank : isBlank deviceId
  · simp [requireDeviceId, QuicCompanionService.envelope, Option.filter, hblank]
  · simp [requireDeviceId, QuicCompanionService.envelope, Option.filter, hblank, eq_comm]

/-- A list on the wire resolves exactly when its device is named and every item resolves. -/
theorem CompanionSessionManager.resolves_array {α β : Type} {envelope : QuicEnvelope}
    {decode : Value → Option α} {resolve : α → Except AppError β} {fieldName : String}
    {values : List Value} {announcements : List α}
    (listed : envelope.payload.get? fieldName = some (.array values))
    (decoded : values.mapM decode = some announcements) (d : String) (items : List β) :
    Resolves envelope decode resolve fieldName d items ↔
      requireDeviceId envelope = .ok d ∧ announcements.mapM resolve = .ok items := by
  constructor
  · intro h
    obtain ⟨named, v, announcements', hv, hdecoded, hresolved⟩ := h
    rw [listed] at hv
    cases hv
    have same : values.mapM decode = some announcements' := hdecoded
    rw [decoded] at same
    cases same
    exact ⟨named, hresolved⟩
  · intro h
    exact ⟨h.1, .array values, announcements, listed, decoded, h.2⟩

theorem capabilityList_resolves (d : String) (items : List Capability) :
    CompanionSessionManager.Resolves (service.capabilityListOf rows deviceId)
      AnnouncedCapability.ofJson resolveCapability "capabilities" d items ↔
    (isBlank deviceId = false ∧ d = deviceId) ∧
      (rows.map CompanionCapability.announced).mapM resolveCapability = .ok items := by
  have decoded : (rows.map CompanionCapability.toJson).mapM AnnouncedCapability.ofJson =
      some (rows.map CompanionCapability.announced) := by
    rw [mapM_eq_some, List.forall₂_map_left_iff, List.forall₂_map_right_iff, List.forall₂_same]
    intro row _
    exact row.ofJson_toJson
  rw [CompanionSessionManager.resolves_array rfl decoded,
    QuicCompanionService.capabilityListOf, requireDeviceId_envelope]

theorem permissionState_resolves (d : String) (items : List CapabilityPermissionState) :
    CompanionSessionManager.Resolves (service.permissionStateOf rows deviceId)
      AnnouncedPermissionState.ofJson resolvePermissionState "states" d items ↔
    (isBlank deviceId = false ∧ d = deviceId) ∧
      (rows.map (fun row => (service.permissionGuard.evaluate row).announced
        row.requiresUserConsent)).mapM resolvePermissionState = .ok items := by
  have decoded : (rows.map (fun row => (service.permissionGuard.evaluate row).toJson
      row.requiresUserConsent)).mapM AnnouncedPermissionState.ofJson =
      some (rows.map (fun row => (service.permissionGuard.evaluate row).announced
        row.requiresUserConsent)) := by
    rw [mapM_eq_some, List.forall₂_map_left_iff, List.forall₂_map_right_iff, List.forall₂_same]
    intro row _
    exact PermissionEvaluation.ofJson_toJson _ _
  rw [CompanionSessionManager.resolves_array rfl decoded,
    QuicCompanionService.permissionStateOf, requireDeviceId_envelope]

/-- The phone's envelopes are valid whatever the device is called. -/
theorem envelope_valid {messageId : String} {c : Char} (hmem : c ∈ messageId.toList)
    (hc : isWhitespace c = false) (kind : QuicMessageKind) (payload : Value) :
    validateQuicEnvelope (QuicCompanionService.envelope messageId deviceId kind payload) =
      .ok () := by
  have hblank : ¬ isBlank messageId := by
    rw [isBlank_iff]
    intro h
    rw [h c hmem] at hc
    cases hc
  simp [validateQuicEnvelope, QuicCompanionService.envelope, companionProtocol,
    companionProtocolVersion, hblank]

/-- The device's session after the hello, and after the two lists as well. -/
def started : CompanionSession :=
  ⟨deviceId, deviceName, service.versionName, UInt32.ofNat service.sdkInt, .handshaking, [], []⟩

def negotiated (items : List Capability) (states : List CapabilityPermissionState) :
    CompanionSession :=
  ⟨deviceId, deviceName, service.versionName, UInt32.ofNat service.sdkInt,
    if items.isEmpty then .handshaking else .ready, items, states⟩

theorem handleEnvelope_buildHello :
    if service.sdkInt < 2^32 then
      ∃ reply, m.handleEnvelope (service.buildHello deviceId deviceName) =
        ({ m with sessions := m.sessions.insert deviceId (started service deviceId deviceName) },
          .ok reply)
    else ∃ e, m.handleEnvelope (service.buildHello deviceId deviceName) = (m, .error e) := by
  have valid : validateQuicEnvelope (service.buildHello deviceId deviceName) = .ok () :=
    envelope_valid deviceId (c := 'h') (by simp) (by decide) _ _
  have checked := checkHello_buildHello service deviceId deviceName
  have kind : (service.buildHello deviceId deviceName).kind = .hello := rfl
  split_ifs at checked ⊢ with hsdk
  · exact ⟨_, by simp only [CompanionSessionManager.handleEnvelope, valid, kind,
      CompanionSessionManager.handleHello, checked]; rfl⟩
  · exact ⟨_, by simp only [CompanionSessionManager.handleEnvelope, valid, kind,
      CompanionSessionManager.handleHello, checked]; rfl⟩

variable {m service rows deviceId}

theorem handleEnvelope_capabilityListOf {session : CompanionSession} {items : List Capability}
    (found : m.sessions[deviceId]? = some session)
    (resolved : CompanionSessionManager.Resolves (service.capabilityListOf rows deviceId)
      AnnouncedCapability.ofJson resolveCapability "capabilities" deviceId items) :
    ∃ reply, m.handleEnvelope (service.capabilityListOf rows deviceId) =
      ({ m with sessions := m.sessions.insert deviceId { session with
          capabilities := items
          connectionState :=
            if session.permissionStates.isEmpty then session.connectionState else .ready } },
        .ok reply) := by
  have valid : validateQuicEnvelope (service.capabilityListOf rows deviceId) = .ok () :=
    envelope_valid deviceId (c := 'c') (by simp) (by decide) _ _
  have kind : (service.capabilityListOf rows deviceId).kind = .capabilityList := rfl
  simp only [CompanionSessionManager.handleEnvelope, valid, kind,
    CompanionSessionManager.handleCapabilityList,
    CompanionSessionManager.handleState_of_resolves resolved found]
  exact ⟨_, rfl⟩

theorem handleEnvelope_permissionStateOf {session : CompanionSession}
    {items : List CapabilityPermissionState}
    (found : m.sessions[deviceId]? = some session)
    (resolved : CompanionSessionManager.Resolves (service.permissionStateOf rows deviceId)
      AnnouncedPermissionState.ofJson resolvePermissionState "states" deviceId items) :
    ∃ reply, m.handleEnvelope (service.permissionStateOf rows deviceId) =
      ({ m with sessions := m.sessions.insert deviceId { session with
          permissionStates := items
          connectionState :=
            if session.capabilities.isEmpty then session.connectionState else .ready } },
        .ok reply) := by
  have valid : validateQuicEnvelope (service.permissionStateOf rows deviceId) = .ok () :=
    envelope_valid deviceId (c := 'p') (by simp) (by decide) _ _
  have kind : (service.permissionStateOf rows deviceId).kind = .permissionState := rfl
  simp only [CompanionSessionManager.handleEnvelope, valid, kind,
    CompanionSessionManager.handlePermissionState,
    CompanionSessionManager.handleState_of_resolves resolved found]
  exact ⟨_, rfl⟩

/-- A capability list that is taken resolves. -/
theorem resolves_of_taken (h : (m.handleEnvelope (service.capabilityListOf rows deviceId)).2.isOk) :
    ∃ d items, CompanionSessionManager.Resolves (service.capabilityListOf rows deviceId)
      AnnouncedCapability.ofJson resolveCapability "capabilities" d items := by
  have kind : (service.capabilityListOf rows deviceId).kind = .capabilityList := rfl
  rcases m.handleEnvelope_spec (service.capabilityListOf rows deviceId) with
    ⟨e, he⟩ | ⟨-, -, htakes⟩
  · rw [he] at h
    cases h
  · generalize (m.handleEnvelope (service.capabilityListOf rows deviceId)).1 = m' at htakes
    cases htakes with
    | capabilityList d session items _ _ resolved => exact ⟨d, items, resolved⟩
    | _ => simp_all

theorem exchange_connectOf {items : List Capability} {states : List CapabilityPermissionState}
    (hsdk : service.sdkInt < 2^32) (hblank : isBlank deviceId = false)
    (hitems : (rows.map CompanionCapability.announced).mapM resolveCapability = .ok items)
    (hstates : (rows.map (fun row => (service.permissionGuard.evaluate row).announced
      row.requiresUserConsent)).mapM resolvePermissionState = .ok states) :
    (∀ reply ∈ (m.exchange (service.connectOf rows deviceId deviceName)).2, reply.isOk) ∧
    (m.exchange (service.connectOf rows deviceId deviceName)).1.sessions[deviceId]? =
      some (negotiated service deviceId deviceName items states) := by
  have hello := handleEnvelope_buildHello m service deviceId deviceName
  rw [if_pos hsdk] at hello
  obtain ⟨r₁, h₁⟩ := hello
  have found₁ : (m.sessions.insert deviceId (started service deviceId deviceName))[deviceId]? =
      some (started service deviceId deviceName) := by simp
  generalize (m.sessions.insert deviceId (started service deviceId deviceName)) = sessions₁
    at h₁ found₁
  have listed := (capabilityList_resolves service rows deviceId deviceId items).mpr
    ⟨⟨hblank, rfl⟩, hitems⟩
  obtain ⟨r₂, h₂⟩ := handleEnvelope_capabilityListOf (m := ⟨sessions₁⟩) found₁ listed
  have found₂ : (sessions₁.insert deviceId { started service deviceId deviceName with
      capabilities := items })[deviceId]? = some { started service deviceId deviceName with
        capabilities := items } := by simp
  have h₂ : CompanionSessionManager.handleEnvelope ⟨sessions₁⟩
      (service.capabilityListOf rows deviceId) = (⟨sessions₁.insert deviceId
        { started service deviceId deviceName with capabilities := items }⟩, .ok r₂) := h₂
  generalize (sessions₁.insert deviceId { started service deviceId deviceName with
    capabilities := items }) = sessions₂ at h₂ found₂
  have reported := (permissionState_resolves service rows deviceId deviceId states).mpr
    ⟨⟨hblank, rfl⟩, hstates⟩
  obtain ⟨r₃, h₃⟩ := handleEnvelope_permissionStateOf (m := ⟨sessions₂⟩) found₂ reported
  simp only [CompanionSessionManager.exchange, QuicCompanionService.connectOf, h₁, h₂, h₃]
  refine ⟨?_, ?_⟩
  · intro reply hreply
    simp only [List.mem_cons, List.not_mem_nil, or_false] at hreply
    rcases hreply with rfl | rfl | rfl <;> rfl
  · rw [Keyed.lookup_insert, if_pos rfl]
    rfl

theorem negotiated_reflects {items : List Capability} {states : List CapabilityPermissionState}
    (hblank : isBlank deviceId = false) (hrows : rows ≠ []) (known : ∀ row ∈ rows, row.Known)
    (hitems : (rows.map CompanionCapability.announced).mapM resolveCapability = .ok items)
    (hstates : (rows.map (fun row => (service.permissionGuard.evaluate row).announced
      row.requiresUserConsent)).mapM resolvePermissionState = .ok states) :
    Reflects (negotiated service deviceId deviceName items states) service.permissionGuard rows := by
  have resolved := (capabilityList_resolves service rows deviceId deviceId items).mpr
    ⟨⟨hblank, rfl⟩, hitems⟩
  have catalogued := resolved.forall (fun _ _ hr => (resolveCapability_catalog hr).1)
  rw [mapM_eq_ok, List.forall₂_map_left_iff] at hitems hstates
  have ids : items.map Capability.id = rows.map CompanionCapability.id := by
    rw [eq_comm, ← List.forall₂_eq_eq_eq, List.forall₂_map_left_iff, List.forall₂_map_right_iff]
    exact hitems.imp (fun row c hc => (resolveCapability_catalog hc).2.1.symm)
  refine ⟨?_, ids, ?_, ?_⟩
  · have hlength : items ≠ [] := by
      intro hnil
      rw [hnil, List.map_nil, eq_comm, List.map_eq_nil_iff] at ids
      exact hrows ids
    simp [negotiated, hlength]
  · show states.map reported = rows.map service.permissionGuard.evaluate
    rw [eq_comm, ← List.forall₂_eq_eq_eq, List.forall₂_map_left_iff, List.forall₂_map_right_iff]
    exact hstates.imp (fun row state hstate => (reported_of_resolved hstate).symm)
  · intro row hrow operation hoperation
    obtain ⟨c, hc, hid, hops⟩ := known row hrow
    have hmem : row.id ∈ items.map Capability.id := by
      rw [ids]
      exact List.mem_map_of_mem hrow
    obtain ⟨c', hc', hid'⟩ := List.mem_map.mp hmem
    have same : c' = c := catalog_unique (catalogued c' hc') hc (hid'.trans hid.symm)
    rw [same] at hc'
    exact ⟨c, hc', hid, hops operation hoperation⟩

/-- A phone gets on with Core exactly when Core can read its hello, its catalog is not empty, and
Core's catalog has all of it. -/
theorem compatible_iff :
    Compatible m service (service.connectOf rows deviceId deviceName) rows deviceId ↔
      service.sdkInt < 2^32 ∧ isBlank deviceId = false ∧ rows ≠ [] ∧ ∀ row ∈ rows, row.Known := by
  have known_iff : (∃ items, (rows.map CompanionCapability.announced).mapM resolveCapability =
      .ok items) ↔ ∀ row ∈ rows, row.Known := by
    rw [mapM_isOk_iff, List.forall_mem_map]
    exact forall₂_congr (fun row _ => row.resolves_iff)
  have states_of (known : ∀ row ∈ rows, row.Known) : ∃ states,
      (rows.map (fun row => (service.permissionGuard.evaluate row).announced
        row.requiresUserConsent)).mapM resolvePermissionState = .ok states := by
    rw [mapM_isOk_iff, List.forall_mem_map]
    intro row hrow
    exact (known row hrow).resolves service.permissionGuard
  constructor
  · intro h
    have taken : ((m.handleEnvelope (service.buildHello deviceId deviceName)).2.isOk) ∧
        ((m.handleEnvelope (service.buildHello deviceId deviceName)).1.handleEnvelope
          (service.capabilityListOf rows deviceId)).2.isOk :=
      ⟨h.accepted _ (by simp [CompanionSessionManager.exchange, QuicCompanionService.connectOf]),
        h.accepted _ (by simp [CompanionSessionManager.exchange, QuicCompanionService.connectOf])⟩
    have hsdk : service.sdkInt < 2^32 := by
      by_contra hsdk
      have hello := handleEnvelope_buildHello m service deviceId deviceName
      rw [if_neg hsdk] at hello
      obtain ⟨e, he⟩ := hello
      rw [he] at taken
      cases taken.1
    obtain ⟨d, items, resolved⟩ := resolves_of_taken taken.2
    obtain ⟨⟨hblank, -⟩, hitems⟩ :=
      (capabilityList_resolves service rows deviceId d items).mp resolved
    have known := known_iff.mp ⟨items, hitems⟩
    refine ⟨hsdk, hblank, ?_, known⟩
    intro hnil
    obtain ⟨states, hstates⟩ := states_of known
    obtain ⟨-, found⟩ := exchange_connectOf deviceName (m := m) hsdk hblank hitems hstates
    obtain ⟨session, hsession, reflects⟩ := h.session
    rw [found] at hsession
    cases hsession
    have ready := reflects.ready
    subst hnil
    cases hitems
    cases ready
  · intro h
    obtain ⟨hsdk, hblank, hrows, known⟩ := h
    obtain ⟨items, hitems⟩ := known_iff.mpr known
    obtain ⟨states, hstates⟩ := states_of known
    obtain ⟨accepted, found⟩ := exchange_connectOf deviceName (m := m) hsdk hblank hitems hstates
    exact ⟨accepted, _, found, negotiated_reflects deviceName hblank hrows known hitems hstates⟩

/-- Core's catalog lacks two capabilities of the phone's, so Core refuses the phone's capability
list: whatever the phone and its grants are, no phone gets on with Core. -/
theorem phone_never_compatible (m : CompanionSessionManager) (service : QuicCompanionService)
    (deviceId deviceName : String) :
    ¬ Compatible m service (service.connect deviceId deviceName)
      AndroidCapabilityCatalog.defaultCapabilities deviceId := by
  intro h
  have connected : Compatible m service (service.connectOf
      AndroidCapabilityCatalog.defaultCapabilities deviceId deviceName)
      AndroidCapabilityCatalog.defaultCapabilities deviceId := h
  obtain ⟨-, -, -, known⟩ := (compatible_iff deviceName).mp connected
  have unknown : ¬ ∀ row ∈ AndroidCapabilityCatalog.defaultCapabilities, row.Known := by decide
  exact unknown known

/-- A phone with all its permissions that connects to a fresh Core: its hello is taken, and its
capability list and its permission states are refused. -/
theorem phone_lists_refused :
    (CompanionSessionManager.default.exchange (QuicCompanionService.connect
      ⟨"1.0.0", 34, none, ⟨fun _ => true, true, true⟩⟩ "pixel-7" "Pixel 7")).2.map Except.isOk =
        [true, false, false] ∧
    ¬ Compatible CompanionSessionManager.default ⟨"1.0.0", 34, none, ⟨fun _ => true, true, true⟩⟩
      (QuicCompanionService.connect ⟨"1.0.0", 34, none, ⟨fun _ => true, true, true⟩⟩ "pixel-7"
        "Pixel 7") AndroidCapabilityCatalog.defaultCapabilities "pixel-7" := by
  have replies : (CompanionSessionManager.default.exchange (QuicCompanionService.connect
      ⟨"1.0.0", 34, none, ⟨fun _ => true, true, true⟩⟩ "pixel-7" "Pixel 7")).2.map Except.isOk =
      [true, false, false] := by decide
  refine ⟨replies, ?_⟩
  intro h
  have refused : false ∈ (CompanionSessionManager.default.exchange (QuicCompanionService.connect
      ⟨"1.0.0", 34, none, ⟨fun _ => true, true, true⟩⟩ "pixel-7" "Pixel 7")).2.map
        Except.isOk := by
    rw [replies]
    decide
  obtain ⟨reply, hreply, hfalse⟩ := List.mem_map.mp refused
  have hok : reply.isOk = true := h.accepted reply hreply
  rw [hok] at hfalse
  cases hfalse

/-- What the phone and Core have in common fits, whatever is granted. -/
theorem common_capabilities_compatible (hsdk : service.sdkInt < 2^32)
    (hblank : isBlank deviceId = false) :
    Compatible m service (service.connectOf
      (AndroidCapabilityCatalog.defaultCapabilities.filter (fun row => row.Known)) deviceId
      deviceName)
      (AndroidCapabilityCatalog.defaultCapabilities.filter (fun row => row.Known)) deviceId := by
  have some_known : AndroidCapabilityCatalog.defaultCapabilities.filter (fun row => row.Known) ≠
      [] := by decide
  rw [compatible_iff]
  refine ⟨hsdk, hblank, some_known, ?_⟩
  intro row hrow
  exact of_decide_eq_true (List.mem_filter.mp hrow).2

end Handshake

end AdbControl.Companion
