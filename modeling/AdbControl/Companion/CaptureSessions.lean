import AdbControl.Companion.FeatureDispatcher
import AdbControl.Framework.Run

namespace AdbControl.Companion

open Framework

/-- The kinds of sessions that a command opens, and another one closes by their id. -/
inductive CaptureKind
  | camera
  | audio
  | motion
  deriving DecidableEq, Repr

/-- What the handlers of these kinds differ in. -/
structure SessionFeature where
  handler : FeatureHandler
  capabilityId : String
  openOperation : String
  closeOperation : String
  idName : String
  missingId : String
  notFoundCode : String
  notFoundMessage : String
  unsupportedMessage : String
  module : String
  /-- A session is put into the map before it is started, and not behind all that may throw. -/
  registersFirst : Bool

def CaptureKind.feature : CaptureKind → SessionFeature
  | .camera => ⟨.camera, "android.camera.stream", "camera.open", "camera.close", "sessionId",
      "camera.close 需要 args.sessionId 参数。", "COMPANION_CAMERA_SESSION_NOT_FOUND",
      "相机会话未处于运行状态：", "不支持的相机操作：", "companion.camera", false⟩
  | .audio => ⟨.audioRecord, "android.audio.record", "audio.record.start", "audio.record.stop",
      "sessionId", "audio.record.stop 需要 args.sessionId 参数。",
      "COMPANION_AUDIO_SESSION_NOT_FOUND", "录音会话未处于运行状态：", "不支持的音频操作：",
      "companion.audio", true⟩
  | .motion => ⟨.motionSensor, "android.sensor.motion", "sensor.subscribe", "sensor.unsubscribe",
      "subscriptionId", "sensor.unsubscribe 需要 args.subscriptionId 参数。",
      "COMPANION_SENSOR_SUBSCRIPTION_NOT_FOUND", "传感器订阅未处于运行状态：",
      "不支持的传感器操作：", "companion.sensor", false⟩

/-- What Android makes of a command that opens a session: a session under a random id, with the rest
of the result; a failure; or an exception, with the id of a session that was not started. -/
inductive Opening
  | opened (id : String) (result : List (String × Value))
  | failed (e : CompanionCommandError)
  | threw (id : String) (t : Throwable)

def Opening.ids : Opening → List String
  | opened id _ => [id]
  | failed _ => []
  | threw id _ => [id]

/-- What Android makes of a command: of one that opens a session, the result of one that closes a
session, and the outcome of any other. -/
structure AndroidAnswer where
  opening : Opening
  closed : List (String × Value)
  other : Except Throwable CompanionCommandResult

def openSession (feature : SessionFeature) (android : AndroidAnswer)
    (context : CompanionCommandContext) (sessions : List String) :
    Except Throwable CompanionCommandResult × List String :=
  match android.opening with
  | .opened id result =>
    (.ok (.success context.requestId ((feature.idName, .string id) :: result)), id :: sessions)
  | .failed e => (.ok ⟨context.requestId, false, [], some e⟩, sessions)
  | .threw id t => (.error t, if feature.registersFirst then id :: sessions else sessions)

def closeSession (feature : SessionFeature) (android : AndroidAnswer)
    (context : CompanionCommandContext) (sessions : List String) :
    Except Throwable CompanionCommandResult × List String :=
  match context.stringArg feature.idName with
  | none => (.ok (.failure context.requestId "COMPANION_PARAMS_INVALID" feature.missingId
      feature.module false none), sessions)
  | some id =>
    if id ∈ sessions then
      (.ok (.success context.requestId ((feature.idName, .string id) :: android.closed)),
        sessions.filter (· ≠ id))
    else
      (.ok (.failure context.requestId feature.notFoundCode (feature.notFoundMessage ++ id)
        feature.module true none), sessions)

/-- `handle` of the handler with these features, which keeps the ids of its sessions. -/
def handleSession (feature : SessionFeature) (android : AndroidAnswer)
    (context : CompanionCommandContext) (sessions : List String) :
    Except Throwable CompanionCommandResult × List String :=
  if context.operation = feature.openOperation then openSession feature android context sessions
  else if context.operation = feature.closeOperation then
    closeSession feature android context sessions
  else
    (.ok (.failure context.requestId "COMPANION_OPERATION_NOT_SUPPORTED"
      (feature.unsupportedMessage ++ context.operation) feature.module false none), sessions)

def CameraFeatureHandler.handle := handleSession CaptureKind.camera.feature
def AudioRecordFeatureHandler.handle := handleSession CaptureKind.audio.feature
def MotionSensorFeatureHandler.handle := handleSession CaptureKind.motion.feature

/-- The sessions in the maps of a dispatcher's handlers. -/
abbrev CaptureSessions := CaptureKind → List String

def CaptureSessions.none : CaptureSessions := fun _ => []

/-- A handler is given its own map. -/
def withSessions (kind : CaptureKind)
    (handle : AndroidAnswer → CompanionCommandContext → List String →
      Except Throwable CompanionCommandResult × List String)
    (android : AndroidAnswer) (context : CompanionCommandContext) (sessions : CaptureSessions) :
    Except Throwable CompanionCommandResult × CaptureSessions :=
  let (outcome, kept) := handle android context (sessions kind)
  (outcome, Function.update sessions kind kept)

def handleFeature (android : AndroidAnswer) : AndroidFeatureDispatcher.Handle CaptureSessions
  | .camera => withSessions .camera CameraFeatureHandler.handle android
  | .audioRecord => withSessions .audio AudioRecordFeatureHandler.handle android
  | .motionSensor => withSessions .motion MotionSensorFeatureHandler.handle android
  | _ => fun _ sessions => (android.other, sessions)

inductive CommandTransport
  | quic
  | broadcast
  deriving DecidableEq, Repr

/-- A session whose id a command has returned: over which transport, and how many dispatchers the
service had made by then. -/
structure CaptureRecord where
  kind : CaptureKind
  id : String
  transport : CommandTransport
  connects : Nat
  deriving DecidableEq, Repr

/-- The companion app while its process lives. A runtime permission that is granted stays so: Android
ends the process with the permission. -/
structure CompanionApp where
  granted : List String
  canDrawOverlays : Bool
  isAccessibilityServiceEnabled : Bool
  /-- The dispatcher of the QUIC service, if the service is there. -/
  featureDispatcher : Option CaptureSessions
  connects : Nat
  /-- The random ids drawn so far. -/
  drawn : List String
  /-- The sessions that were returned and have not been closed. -/
  returned : List CaptureRecord

inductive CompanionAppEvent
  | grant (permission : String)
  | special (canDrawOverlays isAccessibilityServiceEnabled : Bool)
  | createService
  | destroyService
  | connect
  | command (transport : CommandTransport) (context : CompanionCommandContext)
      (android : AndroidAnswer)

namespace CompanionApp

def initial (granted : List String) : CompanionApp := ⟨granted, false, false, none, 0, [], []⟩

def guard (s : CompanionApp) : PermissionGuard :=
  ⟨fun permission => permission ∈ s.granted, s.canDrawOverlays, s.isAccessibilityServiceEnabled⟩

/-- The dispatcher that serves a command: a broadcast makes one of its own. -/
def dispatcherFor (s : CompanionApp) : CommandTransport → Option CaptureSessions
  | .quic => s.featureDispatcher
  | .broadcast => some CaptureSessions.none

/-- The session whose id a result returns. -/
def openedId (kind : CaptureKind) (context : CompanionCommandContext)
    (outcome : Except Throwable CompanionCommandResult) : Option String :=
  match outcome with
  | .error _ => none
  | .ok result =>
    if context.capabilityId = kind.feature.capabilityId ∧
        context.operation = kind.feature.openOperation ∧ result.ok = true then
      (result.result.lookup kind.feature.idName).bind Value.asStr
    else none

/-- The session that a command closes, if it is found. -/
def closes (kind : CaptureKind) (context : CompanionCommandContext) (id : String) : Prop :=
  context.capabilityId = kind.feature.capabilityId ∧
    context.operation = kind.feature.closeOperation ∧
    context.stringArg kind.feature.idName = some id

instance (kind : CaptureKind) (context : CompanionCommandContext) (id : String) :
    Decidable (closes kind context id) := inferInstanceAs (Decidable (_ ∧ _ ∧ _))

/-- The result of a command that closes a session says that it was found. -/
def succeeded (outcome : Except Throwable CompanionCommandResult) : Bool :=
  match outcome with
  | .error _ => false
  | .ok result => result.ok

def kinds : List CaptureKind := [.camera, .audio, .motion]

/-- The record of sessions after a command. -/
def record (s : CompanionApp) (transport : CommandTransport) (context : CompanionCommandContext)
    (outcome : Except Throwable CompanionCommandResult) : List CaptureRecord :=
  kinds.filterMap (fun kind =>
      (openedId kind context outcome).map (⟨kind, ·, transport, s.connects⟩)) ++
    s.returned.filter (fun r => ¬(closes r.kind context r.id ∧ succeeded outcome = true))

/-- Random ids do not repeat: a command that would draw one again does not happen. -/
def command (s : CompanionApp) (transport : CommandTransport) (context : CompanionCommandContext)
    (android : AndroidAnswer) : CompanionApp :=
  match s.dispatcherFor transport with
  | none => s
  | some sessions =>
    if ∃ id ∈ android.opening.ids, id ∈ s.drawn then s
    else
      let (outcome, kept) :=
        AndroidFeatureDispatcher.dispatch s.guard (handleFeature android) context sessions
      { s with
        featureDispatcher := if transport = .quic then some kept else s.featureDispatcher
        drawn := android.opening.ids ++ s.drawn
        returned := s.record transport context outcome }

def step (s : CompanionApp) : CompanionAppEvent → CompanionApp
  | .grant permission => { s with granted := permission :: s.granted }
  | .special canDrawOverlays isAccessibilityServiceEnabled =>
    { s with
      canDrawOverlays := canDrawOverlays
      isAccessibilityServiceEnabled := isAccessibilityServiceEnabled }
  | .createService =>
    match s.featureDispatcher with
    | none => { s with featureDispatcher := some CaptureSessions.none, connects := s.connects + 1 }
    | some _ => s
  | .destroyService => { s with featureDispatcher := none }
  | .connect =>
    match s.featureDispatcher with
    | none => s
    | some _ =>
      { s with featureDispatcher := some CaptureSessions.none, connects := s.connects + 1 }
  | .command transport context android => s.command transport context android

/-- A command that closes a returned session over a live transport finds it: its result is a
success. -/
def Found (s : CompanionApp) : CompanionAppEvent → Prop
  | .command transport context android => ∀ r ∈ s.returned, closes r.kind context r.id →
      ∀ sessions, s.dispatcherFor transport = some sessions →
        succeeded (AndroidFeatureDispatcher.dispatch s.guard (handleFeature android) context
          sessions).1 = true
  | _ => True

/-- A session is closed over QUIC, and was opened over QUIC since the last connection was made. -/
def SameConnection (s : CompanionApp) : CompanionAppEvent → Prop
  | .command transport context _ => ∀ r ∈ s.returned, closes r.kind context r.id →
      (s.dispatcherFor transport).isSome = true →
        transport = .quic ∧ r.transport = .quic ∧ r.connects = s.connects
  | _ => True

section Dispatch

open AndroidFeatureDispatcher

def capability : CaptureKind → CompanionCapability
  | .camera => ⟨"android.camera.stream", "相机画面", ["android.permission.CAMERA"], [], .critical,
      ["camera.open", "camera.close"], true⟩
  | .audio => ⟨"android.audio.record", "音频录制", ["android.permission.RECORD_AUDIO"], [], .critical,
      ["audio.record.start", "audio.record.stop"], true⟩
  | .motion => ⟨"android.sensor.motion", "运动与方向传感器", [], [], .medium,
      ["sensor.subscribe", "sensor.unsubscribe"], false⟩

theorem find?_capability (kind : CaptureKind) :
    AndroidCapabilityCatalog.defaultCapabilities.find? (·.id == kind.feature.capabilityId) =
      some (capability kind) := by
  cases kind <;> decide

theorem capabilityId_injective {kind kind' : CaptureKind}
    (h : kind.feature.capabilityId = kind'.feature.capabilityId) : kind = kind' := by
  revert h
  cases kind <;> cases kind' <;> decide

theorem handler_cases (handler : FeatureHandler) :
    (∃ kind : CaptureKind, handler = kind.feature.handler) ∨
      ∀ kind : CaptureKind, kind.feature.capabilityId ∉ handler.capabilityIds := by
  cases handler
  case camera => exact Or.inl ⟨.camera, rfl⟩
  case audioRecord => exact Or.inl ⟨.audio, rfl⟩
  case motionSensor => exact Or.inl ⟨.motion, rfl⟩
  all_goals exact Or.inr (by intro kind; cases kind <;> decide)

theorem capabilityIds_feature (kind : CaptureKind) :
    kind.feature.handler.capabilityIds = [kind.feature.capabilityId] := by
  cases kind <;> rfl

theorem handleFeature_feature (android : AndroidAnswer) (kind : CaptureKind) :
    handleFeature android kind.feature.handler =
      withSessions kind (handleSession kind.feature) android := by
  cases kind <;> rfl

/-- A command of a kind of session gets to its handler if the permissions are granted. -/
theorem route_feature {guard : PermissionGuard} {kind : CaptureKind}
    {context : CompanionCommandContext} (hid : context.capabilityId = kind.feature.capabilityId)
    (hoperation : context.operation = kind.feature.openOperation ∨
      context.operation = kind.feature.closeOperation)
    (hgranted : (guard.evaluate (capability kind)).missingPermissions = []) :
    route guard context = .ok kind.feature.handler := by
  have hcapability : AndroidCapabilityCatalog.defaultCapabilities.find?
      (·.id == context.capabilityId) = some (capability kind) := by
    rw [hid]
    exact find?_capability kind
  refine route_ok hcapability ?_ hgranted ?_
  · rcases hoperation with ho | ho <;> rw [ho] <;> cases kind <;> decide
  · rcases hoperation with ho | ho <;> simp only [handlers, FeatureHandler.canHandle, hid, ho] <;>
      cases kind <;> decide

theorem succeeded_caught (context : CompanionCommandContext)
    (outcome : Except Throwable CompanionCommandResult) :
    succeeded (outcome.tryCatch (caught context)) = succeeded outcome := by
  cases outcome with
  | ok result => rfl
  | error t =>
    show succeeded (caught context t) = false
    cases h : caught context t with
    | error t' => rfl
    | ok result => exact (caught_ok h).2

theorem openedId_caught (kind : CaptureKind) (context : CompanionCommandContext)
    (outcome : Except Throwable CompanionCommandResult) :
    openedId kind context (outcome.tryCatch (caught context)) = openedId kind context outcome := by
  cases outcome with
  | ok result => rfl
  | error t =>
    show openedId kind context (caught context t) = none
    cases h : caught context t with
    | error t' => rfl
    | ok result => simp [openedId, (caught_ok h).2]

theorem openedId_some {kind : CaptureKind} {context : CompanionCommandContext}
    {outcome : Except Throwable CompanionCommandResult} {id : String}
    (h : openedId kind context outcome = some id) :
    context.capabilityId = kind.feature.capabilityId ∧
      context.operation = kind.feature.openOperation ∧ ∃ result, outcome = .ok result ∧
        result.ok = true ∧ (result.result.lookup kind.feature.idName).bind Value.asStr = some id := by
  unfold openedId at h
  cases outcome with
  | error t => cases h
  | ok result =>
    dsimp only at h
    split_ifs at h with hc
    exact ⟨hc.1, hc.2.1, result, rfl, hc.2.2, h⟩

/-- What a command does to the sessions of one map, and to those of all maps. -/
structure Effect (kind : CaptureKind) (context : CompanionCommandContext) (android : AndroidAnswer)
    (outcome : Except Throwable CompanionCommandResult) (sessions kept : List String) : Prop where
  opened : ∀ id, openedId kind context outcome = some id → id ∈ android.opening.ids ∧ id ∈ kept
  added : ∀ id ∈ kept, id ∈ sessions ∨ id ∈ android.opening.ids
  stays : ∀ id ∈ sessions, id ∈ kept ∨ (closes kind context id ∧ succeeded outcome = true)

/-- A command that is none of a kind's leaves its sessions. -/
theorem effect_same {kind : CaptureKind} {context : CompanionCommandContext}
    {outcome : Except Throwable CompanionCommandResult} (android : AndroidAnswer)
    (sessions : List String) (h : ∀ id, openedId kind context outcome ≠ some id) :
    Effect kind context android outcome sessions sessions :=
  ⟨fun id hid => absurd hid (h id), fun _ => Or.inl, fun _ => Or.inl⟩

theorem openOperation_ne (kind : CaptureKind) :
    kind.feature.openOperation ≠ kind.feature.closeOperation := by
  cases kind <;> decide

theorem openSession_effect (kind : CaptureKind) (context : CompanionCommandContext)
    (android : AndroidAnswer) (sessions : List String) :
    Effect kind context android (openSession kind.feature android context sessions).1 sessions
      (openSession kind.feature android context sessions).2 := by
  unfold openSession
  cases hopening : android.opening with
  | opened id result =>
    have drawn : id ∈ android.opening.ids := by simp [Opening.ids, hopening]
    refine ⟨?_, ?_, fun id' hmem => Or.inl (List.mem_cons_of_mem id hmem)⟩
    · intro id' h
      obtain ⟨-, -, answer, hanswer, -, hlookup⟩ := openedId_some h
      cases hanswer
      simp only [CompanionCommandResult.success, List.lookup_cons_self, Option.bind_some,
        Value.asStr, Option.some.injEq] at hlookup
      subst hlookup
      exact ⟨drawn, List.mem_cons_self⟩
    · intro id' hmem
      rcases List.mem_cons.mp hmem with rfl | hmem
      · exact Or.inr drawn
      · exact Or.inl hmem
  | failed e =>
    refine effect_same android sessions ?_
    intro id h
    obtain ⟨-, -, answer, hanswer, hok, -⟩ := openedId_some h
    cases hanswer
    cases hok
  | threw id t =>
    have drawn : id ∈ android.opening.ids := by simp [Opening.ids, hopening]
    refine ⟨?_, ?_, ?_⟩
    · intro id' h
      obtain ⟨-, -, answer, hanswer, -⟩ := openedId_some h
      cases hanswer
    · intro id' hmem
      dsimp only at hmem
      split_ifs at hmem
      · rcases List.mem_cons.mp hmem with rfl | hmem
        · exact Or.inr drawn
        · exact Or.inl hmem
      · exact Or.inl hmem
    · intro id' hmem
      refine Or.inl ?_
      dsimp only
      split_ifs
      · exact List.mem_cons_of_mem id hmem
      · exact hmem

/-- A command that is no opening of a session opens none. -/
theorem openedId_ne {kind : CaptureKind} {context : CompanionCommandContext}
    (h : context.operation ≠ kind.feature.openOperation)
    (outcome : Except Throwable CompanionCommandResult) (id : String) :
    openedId kind context outcome ≠ some id :=
  fun hid => h (openedId_some hid).2.1

theorem closeSession_effect (kind : CaptureKind) {context : CompanionCommandContext}
    (hid : context.capabilityId = kind.feature.capabilityId)
    (hclose : context.operation = kind.feature.closeOperation) (android : AndroidAnswer)
    (sessions : List String) :
    Effect kind context android (closeSession kind.feature android context sessions).1 sessions
      (closeSession kind.feature android context sessions).2 := by
  have none_opened := @openedId_ne kind context (fun h => openOperation_ne kind (h.symm.trans hclose))
  unfold closeSession
  cases harg : context.stringArg kind.feature.idName with
  | none => exact effect_same android sessions (none_opened _)
  | some id =>
    dsimp only
    split_ifs with hmem
    · refine ⟨fun id' h => absurd h (none_opened _ id'), ?_, ?_⟩
      · intro id' hkept
        exact Or.inl (List.mem_of_mem_filter hkept)
      · intro id' hbefore
        by_cases hsame : id' = id
        · subst hsame
          exact Or.inr ⟨⟨hid, hclose, harg⟩, rfl⟩
        · exact Or.inl (List.mem_filter.mpr ⟨hbefore, by simpa using hsame⟩)
    · exact effect_same android sessions (none_opened _)

theorem handleSession_effect (kind : CaptureKind) {context : CompanionCommandContext}
    (hid : context.capabilityId = kind.feature.capabilityId) (android : AndroidAnswer)
    (sessions : List String) :
    Effect kind context android (handleSession kind.feature android context sessions).1 sessions
      (handleSession kind.feature android context sessions).2 := by
  unfold handleSession
  split_ifs with hopen hclose
  · exact openSession_effect kind context android sessions
  · exact closeSession_effect kind hid hclose android sessions
  · exact effect_same android sessions (openedId_ne hopen _)

theorem dispatch_effect (guard : PermissionGuard) (android : AndroidAnswer)
    (context : CompanionCommandContext) (sessions : CaptureSessions) (kind : CaptureKind) :
    Effect kind context android (dispatch guard (handleFeature android) context sessions).1
      (sessions kind) ((dispatch guard (handleFeature android) context sessions).2 kind) := by
  cases hroute : route guard context with
  | error failure =>
    rw [dispatch_error hroute]
    refine effect_same android _ ?_
    intro id h
    obtain ⟨-, -, result, hresult, hok, -⟩ := openedId_some h
    cases hresult
    rw [(route_error hroute).2] at hok
    cases hok
  | ok handler =>
    rw [dispatch_ok hroute]
    have able := (Bool.and_eq_true _ _).mp (route_handler hroute).1
    have capability : context.capabilityId ∈ handler.capabilityIds := by simpa using able.1
    have other (hne : context.capabilityId ≠ kind.feature.capabilityId)
        (outcome : Except Throwable CompanionCommandResult) (id : String) :
        openedId kind context outcome ≠ some id :=
      fun h => hne (openedId_some h).1
    rcases handler_cases handler with ⟨kind', rfl⟩ | hnone
    · rw [capabilityIds_feature, List.mem_singleton] at capability
      rw [handleFeature_feature]
      by_cases hkind : kind = kind'
      · subst hkind
        have effect := handleSession_effect kind capability android (sessions kind)
        simp only [withSessions, Function.update_self]
        refine ⟨?_, effect.added, ?_⟩
        · intro id h
          rw [openedId_caught] at h
          exact effect.opened id h
        · intro id hmem
          rw [succeeded_caught]
          exact effect.stays id hmem
      · simp only [withSessions, Function.update_of_ne hkind]
        refine effect_same android _ (other ?_ _)
        intro h
        exact hkind (capabilityId_injective (h.symm.trans capability))
    · have same : (handleFeature android handler context sessions).2 = sessions := by
        cases handler
        case camera => exact absurd (List.mem_singleton_self _) (hnone .camera)
        case audioRecord => exact absurd (List.mem_singleton_self _) (hnone .audio)
        case motionSensor => exact absurd (List.mem_singleton_self _) (hnone .motion)
        all_goals rfl
      rw [same]
      refine effect_same android _ (other ?_ _)
      intro h
      exact hnone kind (h ▸ capability)

/-- A session is opened with its permissions granted. -/
theorem opened_granted {guard : PermissionGuard} {android : AndroidAnswer}
    {context : CompanionCommandContext} {sessions : CaptureSessions} {kind : CaptureKind} {id : String}
    (h : openedId kind context (dispatch guard (handleFeature android) context sessions).1 = some id) :
    (guard.evaluate (capability kind)).missingPermissions = [] := by
  obtain ⟨hid, hopen, result, hresult, hok, -⟩ := openedId_some h
  cases hroute : route guard context with
  | error failure =>
    rw [dispatch_error hroute] at hresult
    cases hresult
    rw [(route_error hroute).2] at hok
    cases hok
  | ok handler =>
    obtain ⟨-, c, hc, hgranted⟩ := route_handler hroute
    rw [hid, find?_capability] at hc
    cases hc
    refine hgranted.resolve_right ?_
    rw [hopen]
    cases kind <;> decide

/-- A command that closes a session succeeds exactly when the dispatcher's map has it. -/
theorem closes_found {guard : PermissionGuard} {kind : CaptureKind}
    (hgranted : (guard.evaluate (capability kind)).missingPermissions = [])
    {context : CompanionCommandContext} {id : String} (hc : closes kind context id)
    (android : AndroidAnswer) (sessions : CaptureSessions) :
    succeeded (dispatch guard (handleFeature android) context sessions).1 = true ↔
      id ∈ sessions kind := by
  obtain ⟨hid, hclose, harg⟩ := hc
  have other : context.operation ≠ kind.feature.openOperation := by
    rw [hclose]
    exact (openOperation_ne kind).symm
  rw [dispatch_ok (route_feature hid (Or.inr hclose) hgranted), succeeded_caught,
    handleFeature_feature]
  simp only [withSessions, handleSession, if_neg other, if_pos hclose, closeSession, harg]
  split_ifs with hmem
  · exact iff_of_true rfl hmem
  · exact iff_of_false (by simp [succeeded, CompanionCommandResult.failure]) hmem

end Dispatch

theorem missing_grant {s : CompanionApp} {c : CompanionCapability}
    (h : (s.guard.evaluate c).missingPermissions = []) (permission : String) :
    ((s.step (.grant permission)).guard.evaluate c).missingPermissions = [] := by
  simp only [PermissionGuard.evaluate, List.filter_eq_nil_iff, Bool.not_eq_true,
    Bool.not_eq_false'] at h ⊢
  intro p hp
  have before := h p hp
  unfold PermissionGuard.hasRuntimePermission at before ⊢
  split_ifs at before ⊢
  · rfl
  · exact decide_eq_true (List.mem_cons_of_mem permission (of_decide_eq_true before))

theorem mem_record {s : CompanionApp} {transport : CommandTransport} {context : CompanionCommandContext}
    {outcome : Except Throwable CompanionCommandResult} {r : CaptureRecord} :
    r ∈ s.record transport context outcome ↔
      (openedId r.kind context outcome = some r.id ∧ r.transport = transport ∧
        r.connects = s.connects) ∨
      (r ∈ s.returned ∧ ¬(closes r.kind context r.id ∧ succeeded outcome = true)) := by
  obtain ⟨kind, id, transport', connects⟩ := r
  simp only [record, List.mem_append, List.mem_filterMap, List.mem_filter, decide_eq_true_eq,
    Option.map_eq_some_iff, CaptureRecord.mk.injEq]
  refine or_congr ?_ Iff.rfl
  constructor
  · rintro ⟨kind', -, id', hid, rfl, rfl, rfl, rfl⟩
    exact ⟨hid, rfl, rfl⟩
  · rintro ⟨hid, rfl, rfl⟩
    exact ⟨kind, by cases kind <;> decide, id, hid, rfl, rfl, rfl, rfl⟩

/-- The permissions of a returned session are granted, and it is in the map of the service's
dispatcher exactly when it was opened over the connection that this dispatcher serves. -/
structure Kept (s : CompanionApp) : Prop where
  granted : ∀ r ∈ s.returned, (s.guard.evaluate (capability r.kind)).missingPermissions = []
  past : ∀ r ∈ s.returned, r.connects ≤ s.connects
  listed : ∀ r ∈ s.returned, ∀ sessions, s.featureDispatcher = some sessions →
    (r.id ∈ sessions r.kind ↔ r.transport = .quic ∧ r.connects = s.connects)
  drawn : ∀ r ∈ s.returned, r.id ∈ s.drawn
  sessions : ∀ sessions, s.featureDispatcher = some sessions →
    ∀ kind, ∀ id ∈ sessions kind, id ∈ s.drawn

theorem kept_initial (granted : List String) : Kept (initial granted) := by
  refine ⟨?_, ?_, ?_, ?_, ?_⟩
  all_goals first
    | exact fun r hr => absurd hr List.not_mem_nil
    | exact fun sessions hsessions => by cases hsessions

namespace Kept

variable {s : CompanionApp}

/-- A dispatcher that is made anew has none of the sessions returned before. -/
theorem renew (h : Kept s) : Kept { s with
    featureDispatcher := some CaptureSessions.none, connects := s.connects + 1 } := by
  refine ⟨h.granted, fun r hr => Nat.le_succ_of_le (h.past r hr), ?_, h.drawn, ?_⟩
  · rintro r hr sessions ⟨⟩
    have past := h.past r hr
    refine iff_of_false List.not_mem_nil ?_
    rintro ⟨-, hnow⟩
    exact absurd (hnow ▸ past) (Nat.not_succ_le_self _)
  · rintro sessions ⟨⟩ kind id hmem
    exact absurd hmem List.not_mem_nil

section Command

variable {transport : CommandTransport} {context : CompanionCommandContext} {android : AndroidAnswer}
  {outcome : Except Throwable CompanionCommandResult} {before : CaptureSessions}
  {after : CaptureSessions} {r : CaptureRecord}

/-- The command worked on the map of the service's dispatcher. -/
theorem listed_quic (h : Kept s) (hbefore : s.featureDispatcher = some before)
    (fresh : ∀ id ∈ android.opening.ids, id ∉ s.drawn)
    (effect : ∀ kind, Effect kind context android outcome (before kind) (after kind))
    (hr : r ∈ s.record .quic context outcome) :
    r.id ∈ after r.kind ↔ r.transport = .quic ∧ r.connects = s.connects := by
  rcases mem_record.mp hr with ⟨hopened, htransport, hnow⟩ | ⟨hr, hstays⟩
  · exact iff_of_true ((effect r.kind).opened r.id hopened).2 ⟨htransport, hnow⟩
  · rw [← h.listed r hr before hbefore]
    constructor
    · intro hmem
      rcases (effect r.kind).added r.id hmem with hmem | hnew
      · exact hmem
      · exact absurd (h.drawn r hr) (fresh r.id hnew)
    · intro hmem
      exact ((effect r.kind).stays r.id hmem).resolve_right hstays

/-- The command worked on the map of another dispatcher. -/
theorem listed_other (h : Kept s) (hother : transport ≠ .quic)
    (fresh : ∀ id ∈ android.opening.ids, id ∉ s.drawn)
    (effect : ∀ kind, Effect kind context android outcome (before kind) (after kind))
    (hr : r ∈ s.record transport context outcome) {sessions : CaptureSessions}
    (hsessions : s.featureDispatcher = some sessions) :
    r.id ∈ sessions r.kind ↔ r.transport = .quic ∧ r.connects = s.connects := by
  rcases mem_record.mp hr with ⟨hopened, htransport, -⟩ | ⟨hr, -⟩
  · have new := ((effect r.kind).opened r.id hopened).1
    refine iff_of_false ?_ ?_
    · intro hmem
      exact fresh r.id new (h.sessions sessions hsessions r.kind r.id hmem)
    · rintro ⟨hquic, -⟩
      exact hother (htransport.symm.trans hquic)
  · exact h.listed r hr sessions hsessions

end Command

theorem command (h : Kept s) (transport : CommandTransport) (context : CompanionCommandContext)
    (android : AndroidAnswer) : Kept (s.command transport context android) := by
  unfold CompanionApp.command
  cases hdispatcher : s.dispatcherFor transport with
  | none => exact h
  | some sessions =>
    dsimp only
    by_cases hdrawn : ∃ id ∈ android.opening.ids, id ∈ s.drawn
    · rw [if_pos hdrawn]
      exact h
    · rw [if_neg hdrawn]
      have fresh : ∀ id ∈ android.opening.ids, id ∉ s.drawn :=
        fun id hid hmem => hdrawn ⟨id, hid, hmem⟩
      have effect := dispatch_effect s.guard android context sessions
      have granted := @opened_granted s.guard android context sessions
      generalize AndroidFeatureDispatcher.dispatch s.guard (handleFeature android) context
        sessions = answer at effect granted
      obtain ⟨outcome, kept⟩ := answer
      -- a map of the new state is one that the command worked on, or one that it left alone
      have quic (sessions' : CaptureSessions)
          (hsessions : (if transport = .quic then some kept else s.featureDispatcher) =
            some sessions') : (transport = .quic ∧ sessions' = kept ∧
              s.featureDispatcher = some sessions) ∨
            (transport ≠ .quic ∧ s.featureDispatcher = some sessions') := by
        split_ifs at hsessions with hquic
        · subst hquic
          exact Or.inl ⟨rfl, (Option.some.inj hsessions).symm, hdispatcher⟩
        · exact Or.inr ⟨hquic, hsessions⟩
      refine ⟨?_, ?_, ?_, ?_, ?_⟩
      · intro r hr
        rcases mem_record.mp hr with ⟨hopened, -⟩ | ⟨hr, -⟩
        · exact granted hopened
        · exact h.granted r hr
      · intro r hr
        rcases mem_record.mp hr with ⟨-, -, hnow⟩ | ⟨hr, -⟩
        · exact hnow.le
        · exact h.past r hr
      · intro r hr sessions' hsessions
        rcases quic sessions' hsessions with ⟨rfl, rfl, hbefore⟩ | ⟨hother, hbefore⟩
        · exact h.listed_quic hbefore fresh effect hr
        · exact h.listed_other hother fresh effect hr hbefore
      · intro r hr
        rcases mem_record.mp hr with ⟨hopened, -⟩ | ⟨hr, -⟩
        · exact List.mem_append_left _ ((effect r.kind).opened r.id hopened).1
        · exact List.mem_append_right _ (h.drawn r hr)
      · intro sessions' hsessions kind id hmem
        rcases quic sessions' hsessions with ⟨-, rfl, hbefore⟩ | ⟨-, hbefore⟩
        · rcases (effect kind).added id hmem with hmem | hnew
          · exact List.mem_append_right _ (h.sessions sessions hbefore kind id hmem)
          · exact List.mem_append_left _ hnew
        · exact List.mem_append_right _ (h.sessions sessions' hbefore kind id hmem)

theorem step (h : Kept s) (e : CompanionAppEvent) : Kept (s.step e) := by
  cases e with
  | grant permission =>
    exact ⟨fun r hr => missing_grant (h.granted r hr) permission, h.past, h.listed, h.drawn,
      h.sessions⟩
  | special canDrawOverlays isAccessibilityServiceEnabled =>
    exact ⟨h.granted, h.past, h.listed, h.drawn, h.sessions⟩
  | createService =>
    unfold CompanionApp.step
    cases s.featureDispatcher with
    | none => exact h.renew
    | some sessions => exact h
  | destroyService =>
    refine ⟨h.granted, h.past, ?_, h.drawn, ?_⟩
    · rintro r hr sessions ⟨⟩
    · rintro sessions ⟨⟩
  | connect =>
    unfold CompanionApp.step
    cases s.featureDispatcher with
    | none => exact h
    | some sessions => exact h.renew
  | command transport context android => exact h.command transport context android

/-- A returned session is found exactly when the command comes over the connection that the session
was opened over. -/
theorem found_iff (h : Kept s) (e : CompanionAppEvent) : Found s e ↔ SameConnection s e := by
  cases e with
  | command transport context android =>
    refine forall_congr' fun r => forall_congr' fun hr => forall_congr' fun hc => ?_
    have found := closes_found (h.granted r hr) hc android
    cases transport with
    | quic =>
      constructor
      · intro hfound hlive
        obtain ⟨sessions, hsessions⟩ := Option.isSome_iff_exists.mp hlive
        exact ⟨rfl, (h.listed r hr sessions hsessions).mp
          ((found sessions).mp (hfound sessions hsessions))⟩
      · intro hsame sessions hsessions
        have hlive : (s.dispatcherFor .quic).isSome = true := by rw [hsessions]; rfl
        exact (found sessions).mpr ((h.listed r hr sessions hsessions).mpr (hsame hlive).2)
    | broadcast =>
      refine iff_of_false ?_ ?_
      · intro hfound
        have hmem := (found _).mp (hfound CaptureSessions.none rfl)
        exact absurd hmem List.not_mem_nil
      · intro hsame
        exact absurd (hsame rfl).1 (by decide)
  | grant permission => exact Iff.rfl
  | special canDrawOverlays isAccessibilityServiceEnabled => exact Iff.rfl
  | createService => exact Iff.rfl
  | destroyService => exact Iff.rfl
  | connect => exact Iff.rfl

end Kept

end CompanionApp

open CompanionApp in
/-- In every run of the companion app, with its commands over either transport and its connections
made anew, the sessions are found when they are closed exactly when each is closed over QUIC and was
opened over QUIC, with no connection made in between. -/
theorem capture_sessions_found_iff (granted : List String) (events : List CompanionAppEvent) :
    Along step Found (initial granted) events ↔ Along step SameConnection (initial granted) events :=
  along_congr Kept (fun _ e h _ => h.step e) (fun _ e h => h.found_iff e) (kept_initial granted)

section

def startRecording : CompanionAppEvent :=
  .command .quic ⟨"start", "android.audio.record", "audio.record.start", []⟩
    ⟨.opened "mic" [("state", .string "streaming")], [], .ok (.success "start" [])⟩

def stopRecording : CompanionAppEvent :=
  .command .quic ⟨"stop", "android.audio.record", "audio.record.stop", [("sessionId", .text "mic")]⟩
    ⟨.opened "unused" [], [("state", .string "stopped")], .ok (.success "stop" [])⟩

/-- The microphone is switched on, the connection is made anew, and the stop command comes. -/
def lostRecording : List CompanionAppEvent :=
  [.createService, .connect, startRecording, .connect, stopRecording]

open CompanionApp in
theorem recording_not_found :
    ¬Along step Found (initial ["android.permission.RECORD_AUDIO"]) lostRecording := by
  intro h
  have found : Along step Found (initial ["android.permission.RECORD_AUDIO"])
      (lostRecording.take 4 ++ stopRecording :: []) := h
  have stopped := found.at ⟨.audio, "mic", .quic, 2⟩ (by decide) (by decide)
    CaptureSessions.none rfl
  revert stopped
  decide

end

end AdbControl.Companion
