import AdbControl.Companion.Invoke

namespace AdbControl.Companion

open Framework

namespace CompanionRegistry

/-- What clients get of the device, if it is listed. -/
def listing (r : CompanionRegistry) (deviceId : String) : Option CompanionDevice :=
  (r.getDevice deviceId).toOption

theorem listing_eq (r : CompanionRegistry) (deviceId : String) :
    r.listing deviceId = r.devices.find? (fun device => device.deviceId == deviceId) := by
  unfold listing getDevice
  cases r.devices.find? (fun device => device.deviceId == deviceId) <;> rfl

theorem listing_upsert (r : CompanionRegistry) (device : CompanionDevice) (deviceId : String) :
    (r.upsert device).listing deviceId =
      if device.deviceId = deviceId then some device else r.listing deviceId := by
  rw [listing_eq, listing_eq]
  exact find_upsert r device deviceId

theorem listing_remove (r : CompanionRegistry) (removed deviceId : String) :
    (r.remove removed).listing deviceId =
      if deviceId = removed then none else r.listing deviceId := by
  obtain ⟨devices⟩ := r
  simp only [listing_eq, remove, List.find?_filter]
  split_ifs with he
  · subst he
    simp
  · congr 1
    funext device
    grind

/-- Where the devices have one record for an id, upserting them all leaves that one. -/
theorem listing_upsertAll (r : CompanionRegistry) (devices : List CompanionDevice)
    (deviceId : String) (record : Option CompanionDevice)
    (h : ∀ device ∈ devices, device.deviceId = deviceId → record = some device) :
    (devices.foldl upsert r).listing deviceId =
      if deviceId ∈ devices.map CompanionDevice.deviceId then record else r.listing deviceId := by
  induction devices generalizing r with
  | nil => simp
  | cons device devices ih =>
    have rest := ih (r.upsert device) (fun other hother => h other (List.mem_cons_of_mem _ hother))
    simp only [List.foldl_cons, rest, listing_upsert, List.map_cons, List.mem_cons]
    by_cases hid : device.deviceId = deviceId
    · rw [if_pos hid, ← h device List.mem_cons_self hid, ite_self, if_pos (Or.inl hid.symm)]
    · simp [hid, Ne.symm hid]

end CompanionRegistry

namespace CompanionSessionManager

variable {m : CompanionSessionManager} {envelope : QuicEnvelope}

/-- The list of a state message, for the session of the device it names, changes that session. -/
theorem handleState_changes_iff {α β : Type} (m : CompanionSessionManager) (envelope : QuicEnvelope)
    (decode : Value → Option α) (resolve : α → Except AppError β)
    (fieldName invalidCode invalidMessage early : String)
    (change : CompanionSession → List β → CompanionSession) (counter : String)
    (deviceId : String) :
    (m.handleState envelope decode resolve fieldName invalidCode invalidMessage early change
        counter).1.sessions[deviceId]? ≠ m.sessions[deviceId]? ↔
      ∃ session items, m.sessions[deviceId]? = some session ∧
        Resolves envelope decode resolve fieldName deviceId items ∧
        change session items ≠ session := by
  constructor
  · intro hchanged
    rcases m.handleState_spec envelope decode resolve fieldName invalidCode invalidMessage early
      change counter with ⟨e, he⟩ | ⟨d, session, items, reply, hresolves, hfound, hset⟩
    · rw [he] at hchanged
      exact (hchanged rfl).elim
    · rw [hset, Keyed.lookup_insert] at hchanged
      split_ifs at hchanged with hd
      · subst hd
        refine ⟨session, items, hfound, hresolves, ?_⟩
        intro hsame
        rw [hsame, hfound] at hchanged
        exact hchanged rfl
      · exact (hchanged rfl).elim
  · rintro ⟨session, items, hfound, hresolves, hchange⟩
    rw [handleState_of_resolves hresolves hfound, Keyed.lookup_insert, if_pos rfl, hfound]
    intro hsame
    exact hchange (Option.some.inj hsame)

/-- The envelope brings the session a list other than the one it has, or makes it ready. -/
def Revises (envelope : QuicEnvelope) (deviceId : String) (session : CompanionSession) : Prop :=
  (envelope.kind = .capabilityList ∧ ∃ items,
    Resolves envelope AnnouncedCapability.ofJson resolveCapability "capabilities" deviceId items ∧
    (items ≠ session.capabilities ∨
      session.permissionStates ≠ [] ∧ session.connectionState ≠ .ready)) ∨
  (envelope.kind = .permissionState ∧ ∃ items,
    Resolves envelope AnnouncedPermissionState.ofJson resolvePermissionState "states" deviceId
      items ∧
    (items ≠ session.permissionStates ∨
      session.capabilities ≠ [] ∧ session.connectionState ≠ .ready))

/-- A message other than a hello changes a session exactly when it revises it. -/
theorem handleEnvelope_changes_iff (m : CompanionSessionManager)
    (hvalid : validateQuicEnvelope envelope = .ok ()) (hkind : envelope.kind ≠ .hello)
    (deviceId : String) :
    (m.handleEnvelope envelope).1.sessions[deviceId]? ≠ m.sessions[deviceId]? ↔
      ∃ session, m.sessions[deviceId]? = some session ∧ Revises envelope deviceId session := by
  cases hk : envelope.kind with
  | hello => exact (hkind hk).elim
  | capabilityList =>
    have revised (session : CompanionSession) (items : List Capability) :
        { session with
          capabilities := items
          connectionState :=
            if session.permissionStates.isEmpty then session.connectionState else .ready } ≠
          session ↔ items ≠ session.capabilities ∨
            session.permissionStates ≠ [] ∧ session.connectionState ≠ .ready := by
      obtain ⟨_, _, _, _, state, capabilities, states⟩ := session
      cases states with
      | nil => simp
      | cons => grind
    simp only [handleEnvelope, hvalid, hk, handleCapabilityList, handleState_changes_iff, revised,
      Revises]
    grind
  | permissionState =>
    have revised (session : CompanionSession) (items : List CapabilityPermissionState) :
        { session with
          permissionStates := items
          connectionState :=
            if session.capabilities.isEmpty then session.connectionState else .ready } ≠
          session ↔ items ≠ session.permissionStates ∨
            session.capabilities ≠ [] ∧ session.connectionState ≠ .ready := by
      obtain ⟨_, _, _, _, state, capabilities, states⟩ := session
      cases capabilities with
      | nil => simp
      | cons => grind
    simp only [handleEnvelope, hvalid, hk, handlePermissionState, handleState_changes_iff, revised,
      Revises]
    grind
  | _ => simp [handleEnvelope, hvalid, hk, Revises]

end CompanionSessionManager

namespace LiveState

variable {s : LiveState}

/-- Clients get every session as it is, unless its device has lost its handle with its listing. -/
structure Shown (s : LiveState) : Prop where
  keyed : s.ingress.sessionManager.WellKeyed
  shown : ∀ (deviceId : String) (session : CompanionSession),
    s.ingress.sessionManager.sessions[deviceId]? = some session →
    s.registry.listing deviceId = some session.toDevice ∨
      s.registry.listing deviceId = none ∧ s.sessions[deviceId]? = none

theorem shown_start : start.Shown := by
  refine ⟨CompanionSessionManager.wellKeyed_default, ?_⟩
  intro deviceId session h
  simp [start, new, CompanionIngress.new, CompanionSessionManager.default] at h

/-- A device with a session that is not listed is bound to no connection. -/
theorem Shown.unbound (h : s.Shown) {deviceId : String} {session : CompanionSession}
    (hsession : s.ingress.sessionManager.sessions[deviceId]? = some session)
    (hnone : s.registry.listing deviceId = none) (connectionId : UInt64) :
    s.boundTo connectionId deviceId = false := by
  rcases h.shown deviceId session hsession with hshown | ⟨-, hhandle⟩
  · rw [hnone] at hshown
    cases hshown
  · rw [boundTo, hhandle, Option.any_none]

theorem bindHello_other {envelope : QuicEnvelope} (hkind : envelope.kind ≠ .hello)
    (connectionId : UInt64) (outgoing : Nat) :
    s.bindHello connectionId outgoing envelope = s.sessions := by
  unfold bindHello
  split
  · next hk _ => exact (hkind hk).elim
  · rfl

/-- Once an envelope is accepted that is no response, clients get every session as it is. -/
theorem listing_announcing (s : LiveState) (connectionId : UInt64) (outgoing : Nat) (closed : Bool)
    {envelope : QuicEnvelope} (h : envelope.Announces) (deviceId : String)
    (keyed : (s.ingress.sessionManager.handleEnvelope envelope).1.WellKeyed) :
    (s.acceptEnvelope connectionId outgoing closed envelope).state.registry.listing deviceId =
      match (s.ingress.sessionManager.handleEnvelope envelope).1.sessions[deviceId]? with
      | some session => some session.toDevice
      | none => s.registry.listing deviceId := by
  obtain ⟨hregistry, -, -⟩ := @acceptEnvelope_announcing s connectionId outgoing closed envelope h
  rw [hregistry, s.ingress.handleEnvelope_sessions (valid_of_announces h)]
  generalize (s.ingress.sessionManager.handleEnvelope envelope).1 = m at keyed
  have one : ∀ device ∈ m.devices, device.deviceId = deviceId →
      m.sessions[deviceId]?.map CompanionSession.toDevice = some device := by
    intro device hmem hid
    obtain ⟨⟨key, session⟩, hentry, rfl⟩ := List.mem_map.mp hmem
    rw [Std.ExtTreeMap.mem_toList_iff_getElem?_eq_some] at hentry
    have hkey : session.deviceId = key := keyed key session hentry
    have hid : session.deviceId = deviceId := hid
    rw [← hid, hkey, hentry, Option.map_some]
  have listed := CompanionSessionManager.mem_devices_ids keyed deviceId
  rw [Keyed.mem_iff_lookup] at listed
  rw [CompanionRegistry.listing_upsertAll _ _ deviceId _ one]
  cases hsession : m.sessions[deviceId]? with
  | none =>
    rw [if_neg]
    intro hmem
    obtain ⟨session, hfound⟩ := listed.mp hmem
    rw [hsession] at hfound
    cases hfound
  | some session =>
    rw [if_pos (listed.mpr ⟨session, hsession⟩)]
    rfl

/-- A message that leaves the device's session alone changes its listing exactly when the device has
a session and is not listed. -/
theorem relisted_iff (h : s.Shown) (connectionId : UInt64) (outgoing : Nat) (closed : Bool)
    {envelope : QuicEnvelope} (ha : envelope.Announces) {deviceId : String}
    (hsame : (s.ingress.sessionManager.handleEnvelope envelope).1.sessions[deviceId]? =
      s.ingress.sessionManager.sessions[deviceId]?) :
    (s.acceptEnvelope connectionId outgoing closed envelope).state.registry.listing deviceId ≠
        s.registry.listing deviceId ↔
      ∃ session, s.ingress.sessionManager.sessions[deviceId]? = some session ∧
        s.registry.listing deviceId = none := by
  rw [s.listing_announcing connectionId outgoing closed ha deviceId
    (h.keyed.handleEnvelope (valid_of_announces ha)), hsame]
  cases hsession : s.ingress.sessionManager.sessions[deviceId]? with
  | none => simp
  | some session =>
    rcases h.shown deviceId session hsession with hshown | ⟨hnone, -⟩
    · simp [hshown]
    · simp [hnone]

theorem Shown.disconnect (h : s.Shown) (connectionId : UInt64) (deviceId : Option String) :
    (s.disconnect connectionId deviceId).Shown := by
  rcases s.disconnect_cases connectionId deviceId with hsame | ⟨d, hgone⟩
  · rw [hsame]
    exact h
  · rw [hgone]
    refine ⟨h.keyed, ?_⟩
    intro other session hsession
    rw [CompanionRegistry.listing_remove, Keyed.lookup_erase]
    split_ifs with he
    · exact Or.inr ⟨rfl, rfl⟩
    · exact h.shown other session hsession

theorem shown_step (h : s.Shown) (op : LiveOp) : (op.step s).Shown := by
  cases op with
  | accept connectionId outgoing closed envelope =>
    by_cases ha : envelope.Announces
    · have hvalid := valid_of_announces ha
      obtain ⟨-, hmanager, -⟩ := @acceptEnvelope_announcing s connectionId outgoing closed
        envelope ha
      have keyed := h.keyed.handleEnvelope hvalid
      rw [s.ingress.handleEnvelope_sessions hvalid] at hmanager
      refine ⟨?_, ?_⟩
      · rw [LiveOp.step, hmanager]
        exact keyed
      · intro deviceId session hsession
        rw [LiveOp.step, hmanager] at hsession
        left
        rw [LiveOp.step, listing_announcing s connectionId outgoing closed ha deviceId keyed,
          hsession]
    · obtain ⟨hregistry, hingress, hsessions⟩ := @acceptEnvelope_quiet s connectionId outgoing
        closed envelope ha
      refine ⟨?_, ?_⟩
      · rw [LiveOp.step, hingress]
        exact h.keyed
      · rw [LiveOp.step, hregistry, hingress, hsessions]
        exact h.shown
  | disconnect connectionId deviceId => exact h.disconnect connectionId deviceId
  | disconnectConnection connectionId =>
    exact disconnectConnection_keeps (fun _ c deviceId hs => hs.disconnect c deviceId) h

end LiveState

/-- The caller waits for the response of its command and has none yet. -/
def Call.awaiting (call : Call) : Bool := call.phase.awaits && call.inbox.isNone

namespace Commands

variable {s : Commands}

/-- Between two states, what is recorded for the device changes (its handle, its session, what
clients get of it), or a call to it that is waiting for its response. -/
def Touches (s s' : Commands) (deviceId : String) : Prop :=
  s'.live.sessions[deviceId]? ≠ s.live.sessions[deviceId]? ∨
  s'.live.ingress.sessionManager.sessions[deviceId]? ≠
    s.live.ingress.sessionManager.sessions[deviceId]? ∨
  s'.live.registry.listing deviceId ≠ s.live.registry.listing deviceId ∨
  ∃ (n : Nat) (call : Call), s.calls[n]? = some call ∧ call.deviceId = deviceId ∧
    call.awaiting = true ∧ s'.calls[n]? ≠ some call

/-- A frame that is no hello touches no device but those bound to its connection. -/
def OwnDevices (s : Commands) : Act → Prop
  | .transport (.accept connectionId outgoing closed envelope) => envelope.kind ≠ .hello →
    ∀ deviceId,
      s.Touches (step s (.transport (.accept connectionId outgoing closed envelope))) deviceId →
      s.live.boundTo connectionId deviceId = true
  | _ => True

/-- A response under whose request id a call waits comes on the connection that the call's device is
bound to; and at any other message but a hello every device with a session is listed, and is bound
to the message's connection if the message revises its session. -/
def Entitled (s : Commands) : Act → Prop
  | .transport (.accept connectionId outgoing closed envelope) => envelope.kind ≠ .hello →
    (∀ r ∈ (LiveOp.accept connectionId outgoing closed envelope).response,
      ∀ n ∈ s.live.pending[r.2.answeredId]?, ∀ call ∈ s.calls[n]?, call.awaiting = true →
        s.live.boundTo connectionId call.deviceId = true) ∧
    (envelope.Announces → ∀ (deviceId : String) (session : CompanionSession),
      s.live.ingress.sessionManager.sessions[deviceId]? = some session →
        s.live.registry.listing deviceId ≠ none ∧
        (CompanionSessionManager.Revises envelope deviceId session →
          s.live.boundTo connectionId deviceId = true))
  | _ => True

/-- The waiting calls that a step of the transport changes are those it hands a response to. -/
theorem touched_calls_iff (s : Commands) (op : LiveOp) (deviceId : String) :
    (∃ (n : Nat) (call : Call), s.calls[n]? = some call ∧ call.deviceId = deviceId ∧
      call.awaiting = true ∧ (step s (.transport op)).calls[n]? ≠ some call) ↔
    ∃ r ∈ op.response, ∃ n ∈ s.live.pending[r.2.answeredId]?, ∃ call ∈ s.calls[n]?,
      call.awaiting = true ∧ call.deviceId = deviceId := by
  constructor
  · rintro ⟨n, call, hcall, hdevice, hawaiting, hchanged⟩
    rcases step_transport_cases s op with ⟨r, m, other, hr, hm, hother, hstep⟩ | ⟨-, hstep⟩
    · rw [hstep, Keyed.lookup_insert] at hchanged
      split_ifs at hchanged with he
      · subst he
        rw [hcall] at hother
        cases hother
        exact ⟨r, hr, n, hm, call, hcall, hawaiting, hdevice⟩
      · exact (hchanged hcall).elim
    · rw [hstep] at hchanged
      exact (hchanged hcall).elim
  · rintro ⟨r, hr, n, hn, call, hcall, hawaiting, hdevice⟩
    rw [Option.mem_def] at hr hn hcall
    refine ⟨n, call, hcall, hdevice, hawaiting, ?_⟩
    have hstep : step s (.transport op) =
        ⟨op.step s.live, s.calls.insert n { call with inbox := some r.2 }⟩ := by
      simp [step, LiveOp.delivered_eq, hr, hn, hcall, deliver]
    rw [hstep, Keyed.lookup_insert, if_pos rfl]
    intro hsame
    have hinbox := congrArg Call.inbox (Option.some.inj hsame)
    rw [Call.awaiting, Bool.and_eq_true, ← hinbox] at hawaiting
    cases hawaiting.2

/-- What is recorded for a device changes with a message that is no hello exactly when the device
has a session that the message revises, or that is not listed. -/
theorem touched_record_iff (h : s.live.Shown) {connectionId : UInt64} {outgoing : Nat}
    {closed : Bool} {envelope : QuicEnvelope} (hkind : envelope.kind ≠ .hello)
    (deviceId : String) :
    let live := (s.live.acceptEnvelope connectionId outgoing closed envelope).state
    (live.sessions[deviceId]? ≠ s.live.sessions[deviceId]? ∨
      live.ingress.sessionManager.sessions[deviceId]? ≠
        s.live.ingress.sessionManager.sessions[deviceId]? ∨
      live.registry.listing deviceId ≠ s.live.registry.listing deviceId) ↔
    envelope.Announces ∧ ∃ session,
      s.live.ingress.sessionManager.sessions[deviceId]? = some session ∧
      (s.live.registry.listing deviceId = none ∨
        CompanionSessionManager.Revises envelope deviceId session) := by
  intro live
  by_cases ha : envelope.Announces
  · have hvalid := LiveState.valid_of_announces ha
    obtain ⟨-, hmanager, hsessions⟩ := @LiveState.acceptEnvelope_announcing s.live connectionId
      outgoing closed envelope ha
    rw [s.live.ingress.handleEnvelope_sessions hvalid] at hmanager
    have changes := s.live.ingress.sessionManager.handleEnvelope_changes_iff hvalid hkind deviceId
    rw [hsessions, LiveState.bindHello_other hkind, hmanager]
    by_cases hsame : (s.live.ingress.sessionManager.handleEnvelope envelope).1.sessions[deviceId]? =
        s.live.ingress.sessionManager.sessions[deviceId]?
    · have relisted := LiveState.relisted_iff h connectionId outgoing closed ha hsame
      constructor
      · rintro (hchange | hchange | hchange)
        · exact (hchange rfl).elim
        · exact (hchange hsame).elim
        · obtain ⟨session, hsession, hnone⟩ := relisted.mp hchange
          exact ⟨ha, session, hsession, Or.inl hnone⟩
      · rintro ⟨-, session, hsession, hnone | hrevises⟩
        · exact Or.inr (Or.inr (relisted.mpr ⟨session, hsession, hnone⟩))
        · exact (changes.mpr ⟨session, hsession, hrevises⟩ hsame).elim
    · obtain ⟨session, hsession, hrevises⟩ := changes.mp hsame
      exact iff_of_true (Or.inr (Or.inl hsame)) ⟨ha, session, hsession, Or.inr hrevises⟩
  · obtain ⟨hregistry, hingress, hsessions⟩ := @LiveState.acceptEnvelope_quiet s.live connectionId
      outgoing closed envelope ha
    simp only [live, hregistry, hingress, hsessions, ha, false_and]
    simp

/-- Which devices a frame that is no hello touches. -/
theorem touches_iff (h : s.live.Shown) (connectionId : UInt64) (outgoing : Nat) (closed : Bool)
    {envelope : QuicEnvelope} (hkind : envelope.kind ≠ .hello) (deviceId : String) :
    s.Touches (step s (.transport (.accept connectionId outgoing closed envelope))) deviceId ↔
      (envelope.Announces ∧ ∃ session,
        s.live.ingress.sessionManager.sessions[deviceId]? = some session ∧
        (s.live.registry.listing deviceId = none ∨
          CompanionSessionManager.Revises envelope deviceId session)) ∨
      ∃ r ∈ (LiveOp.accept connectionId outgoing closed envelope).response,
        ∃ n ∈ s.live.pending[r.2.answeredId]?, ∃ call ∈ s.calls[n]?,
          call.awaiting = true ∧ call.deviceId = deviceId := by
  have record := @touched_record_iff s h connectionId outgoing closed envelope hkind deviceId
  have calls := s.touched_calls_iff (.accept connectionId outgoing closed envelope) deviceId
  refine Iff.trans ?_ (or_congr record calls)
  rw [or_assoc, or_assoc]
  exact Iff.rfl

/-- A frame touches its own devices alone exactly when it is entitled to what it does. -/
theorem ownDevices_iff (h : s.live.Shown) (a : Act) : s.OwnDevices a ↔ s.Entitled a := by
  cases a with
  | start | call => exact Iff.rfl
  | transport op =>
    cases op with
    | disconnect | disconnectConnection => exact Iff.rfl
    | accept connectionId outgoing closed envelope =>
      apply imp_congr_right
      intro hkind
      have touches := touches_iff h connectionId outgoing closed hkind
      constructor
      · intro hown
        refine ⟨?_, ?_⟩
        · intro r hr n hn call hcall hawaiting
          apply hown
          exact (touches call.deviceId).mpr (Or.inr ⟨r, hr, n, hn, call, hcall, hawaiting, rfl⟩)
        · intro ha deviceId session hsession
          have own := fun hwhy => hown deviceId
            ((touches deviceId).mpr (Or.inl ⟨ha, session, hsession, hwhy⟩))
          refine ⟨?_, fun hrevises => own (Or.inr hrevises)⟩
          intro hnone
          have hbound := own (Or.inl hnone)
          rw [h.unbound hsession hnone] at hbound
          cases hbound
      · rintro ⟨hresponse, hmessage⟩ deviceId htouched
        rcases (touches deviceId).mp htouched with ⟨ha, session, hsession, hwhy⟩ |
          ⟨r, hr, n, hn, call, hcall, hawaiting, rfl⟩
        · obtain ⟨hlisted, hbound⟩ := hmessage ha deviceId session hsession
          exact hbound (hwhy.resolve_left hlisted)
        · exact hresponse r hr n hn call hcall hawaiting

theorem shown_step (h : s.live.Shown) (a : Act) : (step s a).live.Shown := by
  cases a with
  | start n deviceId envelope =>
    simp only [step]
    split_ifs <;> exact h
  | call n step' =>
    rcases step_call_cases s n step' with hsame | ⟨call, phase, change, -, -, hstep⟩
    · rw [hsame]
      exact h
    · rw [hstep]
      exact ⟨h.keyed, h.shown⟩
  | transport op => exact LiveState.shown_step h op

end Commands

/-- Along a run of calls, frames, timeouts and disconnects, every frame that is no hello touches
devices bound to its connection alone, exactly when every such frame is entitled to what it does. -/
theorem frames_act_for_their_own (acts : List Act) :
    Along Commands.step Commands.OwnDevices .start acts ↔
      Along Commands.step Commands.Entitled .start acts := by
  apply along_congr (fun s : Commands => s.live.Shown)
  · intro s a hs _
    exact Commands.shown_step hs a
  · intro s a hs
    exact Commands.ownDevices_iff hs a
  · exact LiveState.shown_start

def twoPhones : List Act :=
  [.transport (.accept 1 1 false (sampleHello "phone-a")),
    .transport (.accept 2 2 false (sampleHello "phone-b"))]

/-- The capabilities of the first phone, sent by the second one. -/
def foreignCapabilities : LiveOp :=
  .accept 2 2 false (coreEnvelope "capabilities" none (some "phone-a") .capabilityList (.object
    [("capabilities", .array [.object [("id", .string "android.volume.media")]])]))

/-- They become those of the first phone, which is bound to its own connection. -/
theorem foreign_capabilities_taken :
    ¬∀ acts : List Act, Along Commands.step Commands.OwnDevices .start acts := by
  intro h
  have own := (h (twoPhones ++ [.transport foreignCapabilities])).at
  have before : ((run Commands.step .start twoPhones).live.ingress.sessionManager.sessions[
      "phone-a"]?.map (fun session => session.capabilities.length)) = some 0 := by decide
  have after : ((Commands.step (run Commands.step .start twoPhones)
      (.transport foreignCapabilities)).live.ingress.sessionManager.sessions[
        "phone-a"]?.map (fun session => session.capabilities.length)) = some 1 := by decide
  have bound : (run Commands.step .start twoPhones).live.boundTo 2 "phone-a" = true := by
    refine own (by decide) "phone-a" (Or.inr (Or.inl ?_))
    intro hsame
    rw [foreignCapabilities] at after
    rw [hsame, before] at after
    cases after
  revert bound
  decide

end AdbControl.Companion
