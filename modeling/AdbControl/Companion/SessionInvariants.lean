import AdbControl.Companion.Session
import AdbControl.Framework.Run

namespace AdbControl.Companion

open Framework

namespace CompanionSessionManager

/-- One envelope fed to the session manager. -/
def step (m : CompanionSessionManager) (envelope : QuicEnvelope) : CompanionSessionManager :=
  (m.handleEnvelope envelope).1

/-- The sessions after a list of envelopes, from none. -/
def after (envelopes : List QuicEnvelope) : CompanionSessionManager := run step default envelopes

theorem step_cases (m : CompanionSessionManager) (envelope : QuicEnvelope) :
    m.step envelope = m ∨ m.Takes envelope (m.step envelope) := by
  rcases m.handleEnvelope_spec envelope with ⟨e, he⟩ | ⟨-, -, htakes⟩
  · exact Or.inl (by rw [step, he])
  · exact Or.inr htakes

end CompanionSessionManager

section Authority

/-- The permission state is the catalog row's, less the grants that the phone reports missing. -/
structure AuthorizedState (state : CapabilityPermissionState) : Prop where
  known : ∃ c ∈ androidCompanionCapabilityCatalog, c.id = state.capabilityId
  permissions : ∀ c ∈ androidCompanionCapabilityCatalog, c.id = state.capabilityId →
    state.androidPermissions = c.permission.androidPermissions
  grants : ∀ c ∈ androidCompanionCapabilityCatalog, c.id = state.capabilityId →
    state.specialGrants = c.permission.specialPermissions.filter
      (fun grant => !state.missingSpecialGrants.contains grant)

structure AuthorizedSession (session : CompanionSession) : Prop where
  capabilities : ∀ c ∈ session.capabilities, c ∈ androidCompanionCapabilityCatalog
  permissionStates : ∀ state ∈ session.permissionStates, AuthorizedState state

theorem catalog_ids_nodup : (androidCompanionCapabilityCatalog.map Capability.id).Nodup := by
  decide

theorem catalog_unique {c c' : Capability} (hc : c ∈ androidCompanionCapabilityCatalog)
    (hc' : c' ∈ androidCompanionCapabilityCatalog) (hid : c.id = c'.id) : c = c' :=
  List.inj_on_of_nodup_map catalog_ids_nodup hc hc' hid

theorem resolveCapability_catalog {announcement : AnnouncedCapability} {c : Capability}
    (h : resolveCapability announcement = .ok c) :
    c ∈ androidCompanionCapabilityCatalog ∧ c.id = announcement.id ∧
      ∀ operation ∈ announcement.operations, operation ∈ c.operations := by
  unfold resolveCapability at h
  split at h
  · cases h
  · next found hfound =>
    split_ifs at h with hforeign
    cases h
    refine ⟨List.mem_of_find?_eq_some hfound, ?_, ?_⟩
    · have hid := List.find?_some hfound
      exact beq_iff_eq.mp hid
    · intro operation hoperation
      by_contra hnot
      exact hforeign (List.any_eq_true.mpr ⟨operation, hoperation, by simpa using hnot⟩)

theorem resolvePermissionState_authorized {announcement : AnnouncedPermissionState}
    {state : CapabilityPermissionState} (h : resolvePermissionState announcement = .ok state) :
    AuthorizedState state := by
  unfold resolvePermissionState at h
  split at h
  · cases h
  · next found hfound =>
    cases h
    have hmem := List.mem_of_find?_eq_some hfound
    have hid : found.id = announcement.capabilityId := by
      have h := List.find?_some hfound
      exact beq_iff_eq.mp h
    refine ⟨⟨found, hmem, hid⟩, ?_, ?_⟩
    · intro c hc hcid
      rw [catalog_unique hc hmem (hcid.trans hid.symm)]
    · intro c hc hcid
      rw [catalog_unique hc hmem (hcid.trans hid.symm)]

/-- What holds of every resolved item holds of the list that a state message stores. -/
theorem CompanionSessionManager.Resolves.forall {α β : Type} {envelope : QuicEnvelope}
    {decode : Value → Option α} {resolve : α → Except AppError β} {fieldName deviceId : String}
    {items : List β} (h : Resolves envelope decode resolve fieldName deviceId items)
    {P : β → Prop} (hP : ∀ x y, resolve x = .ok y → P y) : ∀ y ∈ items, P y := by
  obtain ⟨v, announcements, -, -, hresolved⟩ := h.listed
  rw [mapM_eq_ok] at hresolved
  intro y hy
  obtain ⟨i, hi, rfl⟩ := List.getElem_of_mem hy
  have hlength := hresolved.length_eq
  exact hP _ _ (hresolved.get (by omega) hi)

/-- The device an envelope names: a hello by its payload, any other message itself. -/
def namedDevice (envelope : QuicEnvelope) : Option String :=
  if envelope.kind = .hello then
    (CompanionHello.ofJson envelope.payload).map CompanionHello.deviceId
  else envelope.deviceId

theorem ofJson_of_checkHello {envelope : QuicEnvelope} {hello : CompanionHello}
    (h : checkHello envelope = .ok hello) : CompanionHello.ofJson envelope.payload = some hello := by
  unfold checkHello at h
  split at h
  · cases h
  · next parsed hparsed =>
    split_ifs at h
    cases h
    exact hparsed

theorem namedDevice_of_checkHello {envelope : QuicEnvelope} {hello : CompanionHello}
    (kind : envelope.kind = .hello) (h : checkHello envelope = .ok hello) :
    namedDevice envelope = some hello.deviceId := by
  rw [namedDevice, if_pos kind, ofJson_of_checkHello h, Option.map_some]

theorem namedDevice_of_required {envelope : QuicEnvelope} {deviceId : String}
    (kind : envelope.kind ≠ .hello) (h : requireDeviceId envelope = .ok deviceId) :
    namedDevice envelope = some deviceId := by
  rw [namedDevice, if_neg kind]
  unfold requireDeviceId at h
  split at h
  · next found hfound =>
    cases h
    exact (Option.filter_eq_some_iff.mp hfound).1
  · cases h

namespace CompanionSessionManager

def Authorized (m : CompanionSessionManager) : Prop :=
  ∀ (deviceId : String) (session : CompanionSession), m.sessions[deviceId]? = some session →
    AuthorizedSession session

theorem Authorized.insert {m : CompanionSessionManager} (h : m.Authorized) (deviceId : String)
    {session : CompanionSession} (hs : AuthorizedSession session) :
    Authorized { m with sessions := m.sessions.insert deviceId session } :=
  Keyed.forall_insert h hs

theorem authorized_step (m : CompanionSessionManager) (envelope : QuicEnvelope)
    (h : m.Authorized) : (m.step envelope).Authorized := by
  rcases m.step_cases envelope with hsame | htakes
  · rw [hsame]
    exact h
  · generalize m.step envelope = m' at htakes
    cases htakes with
    | hello hello kind checked =>
      have nothing : AuthorizedSession hello.toSession := ⟨by simp [CompanionHello.toSession],
        by simp [CompanionHello.toSession]⟩
      exact h.insert hello.deviceId nothing
    | capabilityList deviceId session items kind found resolved =>
      have hitems := resolved.forall (fun _ _ hr => (resolveCapability_catalog hr).1)
      exact h.insert deviceId ⟨hitems, (h deviceId session found).permissionStates⟩
    | permissionState deviceId session items kind found resolved =>
      have hitems := resolved.forall (fun _ _ hr => resolvePermissionState_authorized hr)
      exact h.insert deviceId ⟨(h deviceId session found).capabilities, hitems⟩
    | heartbeat deviceId kind named => exact h

/-- An envelope that is taken leaves the sessions of all devices but the one it names alone. -/
theorem Takes.elsewhere {m m' : CompanionSessionManager} {envelope : QuicEnvelope}
    (h : m.Takes envelope m') {d : String} (hd : namedDevice envelope ≠ some d) :
    m'.sessions[d]? = m.sessions[d]? := by
  have apart {deviceId : String} {session : CompanionSession}
      (hn : namedDevice envelope = some deviceId) :
      (m.sessions.insert deviceId session)[d]? = m.sessions[d]? := by
    rw [Keyed.lookup_insert, if_neg]
    intro he
    exact hd (by rw [hn, he])
  cases h with
  | hello hello kind checked => exact apart (namedDevice_of_checkHello kind checked)
  | capabilityList deviceId session items kind found resolved =>
    exact apart (namedDevice_of_required (by simp [kind]) resolved.named)
  | permissionState deviceId session items kind found resolved =>
    exact apart (namedDevice_of_required (by simp [kind]) resolved.named)
  | heartbeat deviceId kind named => rfl

end CompanionSessionManager

end Authority

section Negotiation

namespace CompanionSessionManager

/-- A session is ready when both its lists are there, and handshaking otherwise. -/
def Negotiated (m : CompanionSessionManager) : Prop :=
  ∀ (deviceId : String) (session : CompanionSession), m.sessions[deviceId]? = some session →
    session.connectionState =
      if session.capabilities ≠ [] ∧ session.permissionStates ≠ [] then .ready else .handshaking

/-- The envelope is no acceptable empty capability list for a session that has permission states,
nor an acceptable empty list of permission states for one that has capabilities. -/
def Fills (m : CompanionSessionManager) (envelope : QuicEnvelope) : Prop :=
  ∀ (deviceId : String) (session : CompanionSession),
    validateQuicEnvelope envelope = .ok () → requireDeviceId envelope = .ok deviceId →
    m.sessions[deviceId]? = some session →
    (envelope.kind = .capabilityList →
      envelope.payload.get? "capabilities" = some (.array []) → session.permissionStates = []) ∧
    (envelope.kind = .permissionState →
      envelope.payload.get? "states" = some (.array []) → session.capabilities = [])

/-- A list resolves to nothing exactly when it was sent empty. -/
theorem Resolves.nil_iff {α β : Type} {envelope : QuicEnvelope} {decode : Value → Option α}
    {resolve : α → Except AppError β} {fieldName deviceId : String} {items : List β}
    (h : Resolves envelope decode resolve fieldName deviceId items) :
    items = [] ↔ envelope.payload.get? fieldName = some (.array []) := by
  obtain ⟨v, announcements, hv, hparsed, hresolved⟩ := h.listed
  obtain ⟨values, hvalues, hdecoded⟩ := Option.bind_eq_some_iff.mp hparsed
  have hlength : values.length = items.length :=
    (mapM_eq_some.mp hdecoded).length_eq.trans (mapM_eq_ok.mp hresolved).length_eq
  have harray : v = .array values := by
    cases v with
    | array xs => exact congrArg Value.array (Option.some.inj hvalues)
    | _ => cases hvalues
  rw [hv, harray, Option.some.injEq, Value.array.injEq, ← List.length_eq_zero_iff, ← hlength,
    List.length_eq_zero_iff]

/-- Writing one session keeps all sessions negotiated exactly when that one is. -/
theorem Negotiated.insert_iff {m : CompanionSessionManager} (h : m.Negotiated) (deviceId : String)
    (session : CompanionSession) :
    Negotiated { m with sessions := m.sessions.insert deviceId session } ↔
      session.connectionState = if session.capabilities ≠ [] ∧ session.permissionStates ≠ []
        then .ready else .handshaking := by
  constructor
  · intro hn
    exact hn deviceId session (by simp)
  · exact Keyed.forall_insert h

/-- The ready flag of a state message that looks at the other list only: it is right unless the
list that was sent is empty and the other one is not. -/
theorem ready_iff {α β : Type} (items : List α) (other : List β) (earlier : List α)
    (before : ConnectionState)
    (hbefore : before = if earlier ≠ [] ∧ other ≠ [] then .ready else .handshaking) :
    ((if other.isEmpty then before else .ready) =
      if items ≠ [] ∧ other ≠ [] then .ready else .handshaking) ↔ (items = [] → other = []) := by
  by_cases hother : other = []
  · simp [hother, hbefore]
  · by_cases hitems : items = [] <;> simp [hother, hitems]

/-- An empty list resolves to nothing. -/
theorem Resolves.of_empty {α β : Type} {envelope : QuicEnvelope} (decode : Value → Option α)
    (resolve : α → Except AppError β) {fieldName deviceId : String}
    (named : requireDeviceId envelope = .ok deviceId)
    (empty : envelope.payload.get? fieldName = some (.array [])) :
    Resolves envelope decode resolve fieldName deviceId [] :=
  ⟨named, .array [], [], empty, rfl, rfl⟩

/-- A refused envelope was no acceptable empty list. -/
theorem fills_of_refused {m : CompanionSessionManager} {envelope : QuicEnvelope} {e : AppError}
    (he : m.handleEnvelope envelope = (m, .error e)) : m.Fills envelope := by
  intro deviceId session hvalid hnamed hfound
  refine ⟨?_, ?_⟩
  · intro hkind hempty
    have resolved := Resolves.of_empty AnnouncedCapability.ofJson resolveCapability hnamed hempty
    simp only [handleEnvelope, hvalid, hkind, handleCapabilityList,
      handleState_of_resolves resolved hfound] at he
    cases congrArg Prod.snd he
  · intro hkind hempty
    have resolved := Resolves.of_empty AnnouncedPermissionState.ofJson resolvePermissionState hnamed
      hempty
    simp only [handleEnvelope, hvalid, hkind, handlePermissionState,
      handleState_of_resolves resolved hfound] at he
    cases congrArg Prod.snd he

/-- One envelope keeps the sessions negotiated exactly when it fills. -/
theorem fills_iff (m : CompanionSessionManager) (envelope : QuicEnvelope) (h : m.Negotiated) :
    m.Fills envelope ↔ (m.step envelope).Negotiated := by
  rcases m.handleEnvelope_spec envelope with ⟨e, he⟩ | ⟨hvalid, -, htakes⟩
  · rw [step, he]
    exact iff_of_true (fills_of_refused he) h
  · rw [step]
    generalize (m.handleEnvelope envelope).1 = m' at htakes ⊢
    cases htakes with
    | hello hello kind checked =>
      rw [h.insert_iff]
      simp [CompanionHello.toSession, Fills, kind]
    | capabilityList deviceId session items kind found resolved =>
      have before := h deviceId session found
      rw [h.insert_iff, ready_iff items session.permissionStates session.capabilities
        session.connectionState before, resolved.nil_iff]
      constructor
      · intro fills
        exact (fills deviceId session hvalid resolved.named found).1 kind
      · intro hempty d session' _ hnamed hfound
        rw [resolved.named] at hnamed
        cases hnamed
        rw [found] at hfound
        cases hfound
        exact ⟨fun _ => hempty, by simp [kind]⟩
    | permissionState deviceId session items kind found resolved =>
      have before := (h deviceId session found).trans (if_congr and_comm rfl rfl)
      have swap : (if session.capabilities ≠ [] ∧ items ≠ [] then ConnectionState.ready
          else .handshaking) = if items ≠ [] ∧ session.capabilities ≠ [] then .ready
          else .handshaking := if_congr and_comm rfl rfl
      rw [h.insert_iff, swap, ready_iff items session.capabilities session.permissionStates
        session.connectionState before, resolved.nil_iff]
      constructor
      · intro fills
        exact (fills deviceId session hvalid resolved.named found).2 kind
      · intro hempty d session' _ hnamed hfound
        rw [resolved.named] at hnamed
        cases hnamed
        rw [found] at hfound
        cases hfound
        exact ⟨by simp [kind], fun _ => hempty⟩
    | heartbeat deviceId kind named => simpa [Fills, kind] using h

/-- The sessions are negotiated after every envelope exactly when all of them fill. -/
theorem ready_iff_negotiated (envelopes : List QuicEnvelope) :
    Along step Fills default envelopes ↔
      ∀ pre post, envelopes = pre ++ post → (after pre).Negotiated := by
  have start : default.Negotiated := by
    intro deviceId session h
    simp [default] at h
  have same : Along step Fills default envelopes ↔
      Along step (fun m envelope => (m.step envelope).Negotiated) default envelopes :=
    along_congr Negotiated (fun m envelope h hfills => (fills_iff m envelope h).mp hfills)
      (fun m envelope h => fills_iff m envelope h) start
  rw [same]
  constructor
  · intro h pre post he
    rw [he] at h
    exact run_invariant Negotiated (fun _ _ _ hn => hn) start h.before
  · intro h
    apply along_of_at
    intro pre envelope post he
    have reached := h (pre ++ [envelope]) post (by simp [he])
    rwa [after, run_snoc] at reached

end CompanionSessionManager

/-- A phone reports a permission state and then an empty capability list. -/
def emptyListEnvelopes : List QuicEnvelope :=
  [coreEnvelope "hello" none (some "phone") .hello (.object
      [("appVersion", .string "0.13.0"), ("deviceId", .string "phone"),
        ("deviceName", .string "Test phone"), ("androidSdk", .number (.posInt 35)),
        ("supportedProtocolVersions", .array [.number (.posInt 1)])]),
    coreEnvelope "states" none (some "phone") .permissionState (.object
      [("states", .array [.object [("capabilityId", .string "android.volume.media"),
        ("granted", .bool true)]])]),
    coreEnvelope "capabilities" none (some "phone") .capabilityList (.object
      [("capabilities", .array [])])]

/-- Core then takes the phone for ready, without a single capability. -/
theorem ready_without_capabilities :
    ¬∀ (envelopes : List QuicEnvelope) (deviceId : String) (session : CompanionSession),
      (CompanionSessionManager.after envelopes).sessions[deviceId]? = some session →
      (session.connectionState = .ready ↔
        session.capabilities ≠ [] ∧ session.permissionStates ≠ []) := by
  intro h
  have reached : ∃ session, (CompanionSessionManager.after emptyListEnvelopes).sessions["phone"]? =
      some session ∧ session.connectionState = .ready ∧ session.capabilities = [] :=
    ⟨_, rfl, by decide, by decide⟩
  obtain ⟨session, hfound, hready, hnone⟩ := reached
  exact ((h emptyListEnvelopes "phone" session hfound).mp hready).1 hnone

end Negotiation

end AdbControl.Companion
