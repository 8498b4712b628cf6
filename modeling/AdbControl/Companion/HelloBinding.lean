import AdbControl.Companion.FrameOwnership
import AdbControl.Companion.SessionInvariants

namespace AdbControl.Companion

open Framework

namespace CompanionRegistry

/-- Writing a device that clients get as it is changes nothing. -/
theorem upsert_eq_self {r : CompanionRegistry} {device : CompanionDevice}
    (h : r.listing device.deviceId = some device) : r.upsert device = r := by
  obtain ⟨devices⟩ := r
  rw [listing_eq] at h
  have same : upsertInto device devices = devices := by
    induction devices with
    | nil => cases h
    | cons current rest ih =>
      by_cases hid : current.deviceId = device.deviceId
      · simp only [hid, beq_self_eq_true, List.find?_cons_of_pos, Option.some.injEq] at h
        rw [upsertInto, if_pos hid, h]
      · rw [List.find?_cons_of_neg (by simpa using hid)] at h
        rw [upsertInto, if_neg hid, ih h]
  rw [upsert, same]

theorem upsertAll_eq_self {r : CompanionRegistry} {devices : List CompanionDevice}
    (h : ∀ device ∈ devices, r.listing device.deviceId = some device) :
    devices.foldl upsert r = r := by
  induction devices with
  | nil => rfl
  | cons device devices ih =>
    rw [List.foldl_cons, upsert_eq_self (h device List.mem_cons_self)]
    exact ih (fun other hother => h other (List.mem_cons_of_mem device hother))

end CompanionRegistry

namespace CompanionSessionManager

variable {m : CompanionSessionManager} {envelope : QuicEnvelope}

theorem handleEnvelope_hello (m : CompanionSessionManager) (hkind : envelope.kind = .hello)
    (hvalid : validateQuicEnvelope envelope = .ok ()) :
    m.handleEnvelope envelope = m.handleHello envelope := by
  simp only [handleEnvelope, hvalid, hkind]

theorem WellKeyed.deviceId_mem (h : m.WellKeyed) {device : CompanionDevice}
    (hmem : device ∈ m.devices) : ∃ session : CompanionSession,
      m.sessions[device.deviceId]? = some session ∧ device = session.toDevice := by
  obtain ⟨⟨key, session⟩, hentry, rfl⟩ := List.mem_map.mp hmem
  rw [Std.ExtTreeMap.mem_toList_iff_getElem?_eq_some] at hentry
  have hkey : session.deviceId = key := h key session hentry
  refine ⟨session, ?_, rfl⟩
  show m.sessions[session.deviceId]? = some session
  rw [hkey, hentry]

end CompanionSessionManager

namespace LiveState

variable {s : LiveState} {connectionId : UInt64} {outgoing : Nat} {closed : Bool}
  {envelope : QuicEnvelope}

/-- A hello does what its answer says. Answered with an error, it leaves the handles, the sessions
and the registry as they were; accepted, it binds the handle of the device in its payload to the
connection, and changes no other handle. -/
def BindsAsAnswered (s : LiveState) (connectionId : UInt64) (outgoing : Nat) (closed : Bool)
    (envelope : QuicEnvelope) : Prop :=
  let s' := (s.acceptEnvelope connectionId outgoing closed envelope).state
  if (s.ingress.handleEnvelope envelope).2.kind = .error then
    s'.sessions = s.sessions ∧ s'.ingress.sessionManager = s.ingress.sessionManager ∧
      s'.registry = s.registry
  else
    ∃ deviceId, namedDevice envelope = some deviceId ∧ s'.boundTo connectionId deviceId = true ∧
      ∀ d, d ≠ deviceId → s'.sessions[d]? = s.sessions[d]?

/-- The device ids of the envelope have this handle already. -/
def Held (s : LiveState) (connectionId : UInt64) (outgoing : Nat) (envelope : QuicEnvelope) : Prop :=
  ∀ d ∈ envelope.deviceId, s.sessions[d]? = some ⟨connectionId, outgoing⟩

/-- A hello that Core refuses carries no device id, or one with this very handle, while every device
with a session is listed; one that it takes carries the device id of its payload, or else that
device is bound to the connection already, and the device id it carries has this handle. -/
def Harmless (s : LiveState) (connectionId : UInt64) (outgoing : Nat) (envelope : QuicEnvelope) :
    Prop :=
  validateQuicEnvelope envelope = .ok () →
    match checkHello envelope with
    | .error _ => s.Held connectionId outgoing envelope ∧
      ∀ d, d ∈ s.ingress.sessionManager.sessions → s.registry.listing d ≠ none
    | .ok hello => envelope.deviceId = some hello.deviceId ∨
      s.boundTo connectionId hello.deviceId = true ∧ s.Held connectionId outgoing envelope

theorem announces_hello (hkind : envelope.kind = .hello)
    (hvalid : validateQuicEnvelope envelope = .ok ()) : envelope.Announces := by
  refine ⟨by rw [hvalid]; rfl, ?_⟩
  rw [QuicEnvelope.isResponse, hkind]
  rfl

theorem bindHello_hello (hkind : envelope.kind = .hello) :
    s.bindHello connectionId outgoing envelope =
      match envelope.deviceId with
      | some deviceId => s.sessions.insert deviceId ⟨connectionId, outgoing⟩
      | none => s.sessions := by
  rw [bindHello, hkind]
  cases envelope.deviceId <;> rfl

/-- A hello binds nothing new exactly when the device id it carries has the handle. -/
theorem bindHello_eq_self (hkind : envelope.kind = .hello) :
    s.bindHello connectionId outgoing envelope = s.sessions ↔
      s.Held connectionId outgoing envelope := by
  rw [bindHello_hello hkind, Held]
  cases envelope.deviceId with
  | none => simp
  | some d => simpa using Keyed.insert_eq_self

/-- Listing every session again changes nothing exactly when all of them are listed. -/
theorem upsertAll_eq_self_iff (h : s.Shown) :
    s.ingress.sessionManager.devices.foldl CompanionRegistry.upsert s.registry = s.registry ↔
      ∀ d, d ∈ s.ingress.sessionManager.sessions → s.registry.listing d ≠ none := by
  constructor
  · intro hsame d hd hnone
    have listed : d ∈ (s.ingress.sessionManager.devices.foldl CompanionRegistry.upsert
        s.registry).ids := by
      rw [CompanionRegistry.mem_ids_upsertAll, CompanionSessionManager.mem_devices_ids h.keyed]
      exact Or.inl hd
    rw [hsame, CompanionRegistry.ids, List.mem_map] at listed
    obtain ⟨device, hdevice, hid⟩ := listed
    rw [CompanionRegistry.listing_eq, List.find?_eq_none] at hnone
    exact hnone device hdevice (beq_iff_eq.mpr hid)
  · intro hlisted
    apply CompanionRegistry.upsertAll_eq_self
    intro device hdevice
    obtain ⟨session, hsession, he⟩ := h.keyed.deviceId_mem hdevice
    have hmem := (Keyed.mem_iff_lookup s.ingress.sessionManager.sessions device.deviceId).mpr
      ⟨session, hsession⟩
    rcases h.shown device.deviceId session hsession with hshown | ⟨hnone, -⟩
    · rw [hshown, he]
    · exact (hlisted device.deviceId hmem hnone).elim

theorem boundTo_congr {s' : LiveState} {d : String} (h : s'.sessions[d]? = s.sessions[d]?) :
    s'.boundTo connectionId d = s.boundTo connectionId d := by
  rw [boundTo, boundTo, h]

/-- A hello that Core refuses does what its answer says exactly when it is harmless. -/
theorem bindsAsAnswered_refused (h : s.Shown) (hkind : envelope.kind = .hello)
    (hvalid : validateQuicEnvelope envelope = .ok ()) {e : AppError}
    (hrefused : checkHello envelope = .error e) :
    s.BindsAsAnswered connectionId outgoing closed envelope ↔
      s.Harmless connectionId outgoing envelope := by
  have refused : s.ingress.sessionManager.handleEnvelope envelope =
      (s.ingress.sessionManager, .error e) := by
    rw [CompanionSessionManager.handleEnvelope_hello _ hkind hvalid,
      CompanionSessionManager.handleHello, hrefused]
  have answer : (s.ingress.handleEnvelope envelope).2.kind = .error := by
    simp only [CompanionIngress.handleEnvelope, CompanionIngress.dispatchEnvelope, hvalid, hkind,
      refused]
    rfl
  have kept : (s.ingress.handleEnvelope envelope).1.sessionManager = s.ingress.sessionManager := by
    rw [s.ingress.handleEnvelope_sessions hvalid, refused]
  obtain ⟨hregistry, hmanager, hsessions⟩ := @acceptEnvelope_announcing s connectionId outgoing
    closed envelope (announces_hello hkind hvalid)
  rw [kept] at hregistry hmanager
  simp only [BindsAsAnswered, answer, if_true, hregistry, hmanager, hsessions, true_and,
    bindHello_eq_self hkind, upsertAll_eq_self_iff h, Harmless, hvalid, hrefused, forall_const]

/-- A hello that Core takes does what its answer says exactly when it is harmless. -/
theorem bindsAsAnswered_taken (hkind : envelope.kind = .hello)
    (hvalid : validateQuicEnvelope envelope = .ok ()) {hello : CompanionHello}
    (htaken : checkHello envelope = .ok hello) :
    s.BindsAsAnswered connectionId outgoing closed envelope ↔
      s.Harmless connectionId outgoing envelope := by
  have answer : (s.ingress.handleEnvelope envelope).2.kind = .helloAck := by
    simp only [CompanionIngress.handleEnvelope, CompanionIngress.dispatchEnvelope, hvalid, hkind,
      CompanionSessionManager.handleEnvelope_hello _ hkind hvalid,
      CompanionSessionManager.handleHello, htaken]
    rfl
  have named := namedDevice_of_checkHello hkind htaken
  obtain ⟨-, -, hsessions⟩ := @acceptEnvelope_announcing s connectionId outgoing closed envelope
    (announces_hello hkind hvalid)
  rw [bindHello_hello hkind] at hsessions
  simp only [BindsAsAnswered, answer, named, Option.some.injEq, exists_eq_left', Harmless, hvalid,
    htaken, forall_const, Held, reduceCtorEq, if_false]
  cases hd : envelope.deviceId with
  | none =>
    rw [hd] at hsessions
    simp [boundTo, hsessions]
  | some d =>
    rw [hd] at hsessions
    by_cases hsame : d = hello.deviceId
    · subst hsame
      simp only [true_or, iff_true, boundTo, hsessions, Keyed.lookup_insert]
      exact ⟨by simp, fun d hne => by rw [if_neg hne]⟩
    · have unnamed (s' : LiveState) (hs' : s'.sessions = s.sessions.insert d ⟨connectionId, outgoing⟩) :
          s'.boundTo connectionId hello.deviceId = s.boundTo connectionId hello.deviceId := by
        apply boundTo_congr
        rw [hs', Keyed.lookup_insert, if_neg (Ne.symm hsame)]
      rw [unnamed _ hsessions]
      simp only [hsessions, Keyed.lookup_insert, Option.some.injEq, hsame, false_or, Option.mem_def,
        forall_eq']
      constructor
      · rintro ⟨hbound, hothers⟩
        have hat := hothers d hsame
        rw [if_pos rfl] at hat
        exact ⟨hbound, hat.symm⟩
      · rintro ⟨hbound, hheld⟩
        refine ⟨hbound, ?_⟩
        intro d' _
        split_ifs with he
        · rw [he, hheld]
        · rfl

theorem bindsAsAnswered_iff (h : s.Shown) (hkind : envelope.kind = .hello) :
    s.BindsAsAnswered connectionId outgoing closed envelope ↔
      s.Harmless connectionId outgoing envelope := by
  cases hvalid : validateQuicEnvelope envelope with
  | error e =>
    refine iff_of_true ?_ (fun hok => by rw [hvalid] at hok; cases hok)
    have answer : (s.ingress.handleEnvelope envelope).2.kind = .error := by
      simp only [CompanionIngress.handleEnvelope, CompanionIngress.dispatchEnvelope, hvalid]
      rfl
    simp only [BindsAsAnswered, answer, if_true, acceptEnvelope, hvalid, and_self]
  | ok u =>
    cases hcheck : checkHello envelope with
    | error e => exact bindsAsAnswered_refused h hkind hvalid hcheck
    | ok hello => exact bindsAsAnswered_taken hkind hvalid hcheck

end LiveState

/-- The transport with a registry of the program, before its first connection and call. -/
def Commands.new (registry : CompanionRegistry) : Commands := ⟨.new registry, ∅⟩

theorem Commands.shown_new (registry : CompanionRegistry) : (new registry).live.Shown := by
  refine ⟨CompanionSessionManager.wellKeyed_default, ?_⟩
  intro deviceId session h
  simp [new, LiveState.new, CompanionIngress.new, CompanionSessionManager.default] at h

/-- Whatever came before, a hello does what its answer says exactly when it is harmless. -/
theorem hello_binds_as_answered_iff (registry : CompanionRegistry) (acts : List Act)
    (connectionId : UInt64) (outgoing : Nat) (closed : Bool) (envelope : QuicEnvelope)
    (hkind : envelope.kind = .hello) :
    (run Commands.step (.new registry) acts).live.BindsAsAnswered connectionId outgoing closed
        envelope ↔
      (run Commands.step (.new registry) acts).live.Harmless connectionId outgoing envelope :=
  LiveState.bindsAsAnswered_iff
    (run_invariant_of_step (fun s : Commands => s.live.Shown) (fun _ a hs => Commands.shown_step hs a) acts
      (Commands.shown_new registry)) hkind

/-- The first hello of a phone on its own connection. -/
theorem hello_binds_as_answered_first :
    (run Commands.step (.new .default) []).live.BindsAsAnswered 1 1 false (sampleHello "phone-a") :=
  (hello_binds_as_answered_iff .default [] 1 1 false (sampleHello "phone-a") rfl).mpr
    (fun _ => (Or.inl rfl : some "phone-a" = some "phone-a" ∨ _))

/-- A hello without a payload, under the id of another phone. -/
def emptyHello (deviceId : String) : QuicEnvelope :=
  coreEnvelope "hello" none (some deviceId) .hello .null

/-- The second connection is told that its hello is invalid, and has the first phone's handle. -/
theorem refused_hello_takes_handle :
    ¬∀ (registry : CompanionRegistry) (acts : List Act) (connectionId : UInt64) (outgoing : Nat)
      (closed : Bool) (envelope : QuicEnvelope), envelope.kind = .hello →
      (run Commands.step (.new registry) acts).live.BindsAsAnswered connectionId outgoing closed
        envelope := by
  intro h
  have kept := h .default [.transport (.accept 1 1 false (sampleHello "phone-a"))] 2 2 false
    (emptyHello "phone-a") rfl
  have refused : ((run Commands.step (.new .default)
      [.transport (.accept 1 1 false (sampleHello "phone-a"))]).live.ingress.handleEnvelope
        (emptyHello "phone-a")).2.kind = .error := by rfl
  rw [LiveState.BindsAsAnswered, if_pos refused] at kept
  have moved := congrArg (fun sessions : Keyed String SessionHandle =>
    sessions["phone-a"]?.map SessionHandle.connectionId) kept.1
  revert moved
  decide

end AdbControl.Companion
