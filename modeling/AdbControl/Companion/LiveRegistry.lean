import AdbControl.Framework.Run
import AdbControl.Companion.LiveTransport

namespace AdbControl.Companion

open Framework

/-- One call of the live transport by a connection. -/
inductive LiveOp
  | accept (connectionId : UInt64) (outgoing : Nat) (closed : Bool) (envelope : QuicEnvelope)
  | disconnect (connectionId : UInt64) (deviceId : Option String)
  | disconnectConnection (connectionId : UInt64)

/-- The envelope passes the protocol guard and goes to the ingress. -/
def QuicEnvelope.Announces (envelope : QuicEnvelope) : Prop :=
  (validateQuicEnvelope envelope).isOk = true ∧ envelope.isResponse = false

instance (envelope : QuicEnvelope) : Decidable envelope.Announces :=
  inferInstanceAs (Decidable (_ ∧ _))

namespace LiveOp

def step (s : LiveState) : LiveOp → LiveState
  | accept connectionId outgoing closed envelope =>
    (s.acceptEnvelope connectionId outgoing closed envelope).state
  | disconnect connectionId deviceId => s.disconnect connectionId deviceId
  | disconnectConnection connectionId => s.disconnectConnection connectionId

/-- The step takes a hello of the device. -/
def TakesHello (deviceId : String) : LiveOp → Prop
  | accept _ _ _ envelope => envelope.Announces ∧ helloDevice envelope = some deviceId
  | _ => False

end LiveOp

namespace LiveState

/-- The listed devices are those with a session handle. -/
def Exact (s : LiveState) : Prop := ∀ deviceId, deviceId ∈ s.registry.ids ↔ deviceId ∈ s.sessions

variable {s : LiveState} {connectionId : UInt64} {outgoing : Nat} {closed : Bool}
  {envelope : QuicEnvelope}

theorem valid_of_announces (h : envelope.Announces) : validateQuicEnvelope envelope = .ok () := by
  cases hv : validateQuicEnvelope envelope with
  | ok u => rfl
  | error e =>
    have hok := h.1
    simp [hv, Except.isOk, Except.toBool] at hok

/-- A refused envelope or a response leaves the registry, the ingress and the handles alone. -/
theorem acceptEnvelope_quiet (h : ¬envelope.Announces) :
    let s' := (s.acceptEnvelope connectionId outgoing closed envelope).state
    s'.registry = s.registry ∧ s'.ingress = s.ingress ∧ s'.sessions = s.sessions := by
  simp only [acceptEnvelope]
  cases hv : validateQuicEnvelope envelope with
  | error e => exact ⟨rfl, rfl, rfl⟩
  | ok u =>
    have hresponse : envelope.isResponse = true := by
      by_contra hr
      exact h ⟨by simp [hv, Except.isOk, Except.toBool], by simpa using hr⟩
    simp [hresponse]

theorem acceptEnvelope_announcing (h : envelope.Announces) :
    let s' := (s.acceptEnvelope connectionId outgoing closed envelope).state
    let manager := (s.ingress.handleEnvelope envelope).1.sessionManager
    s'.registry = manager.devices.foldl CompanionRegistry.upsert s.registry ∧
      s'.ingress.sessionManager = manager ∧
      s'.sessions = s.bindHello connectionId outgoing envelope := by
  simp only [acceptEnvelope, valid_of_announces h, h.2, Bool.false_eq_true, if_false]
  split_ifs <;> exact ⟨rfl, rfl, rfl⟩

theorem mem_bindHello (deviceId : String) :
    deviceId ∈ s.bindHello connectionId outgoing envelope ↔
      deviceId ∈ s.sessions ∨ envelope.kind = .hello ∧ envelope.deviceId = some deviceId := by
  cases hd : envelope.deviceId with
  | none => cases hk : envelope.kind <;> simp [bindHello, hk, hd]
  | some d =>
    cases hk : envelope.kind with
    | hello =>
      rw [bindHello, hk, hd, Keyed.mem_insert_iff]
      simp [or_comm, eq_comm]
    | _ => simp [bindHello, hk]

/-- A disconnect ends the device's handle and its listing together, or does nothing. -/
theorem disconnect_cases (s : LiveState) (connectionId : UInt64) (deviceId : Option String) :
    s.disconnect connectionId deviceId = s ∨
    ∃ d, s.disconnect connectionId deviceId =
      { s with sessions := s.sessions.erase d, registry := s.registry.remove d } := by
  cases deviceId with
  | none => exact Or.inl rfl
  | some d =>
    simp only [disconnect]
    split_ifs with h
    · exact Or.inr ⟨d, rfl⟩
    · exact Or.inl rfl

/-- What every single disconnect keeps, ending a connection keeps. -/
theorem disconnectConnection_keeps {P : LiveState → Prop}
    (keep : ∀ s connectionId deviceId, P s → P (s.disconnect connectionId deviceId))
    (h : P s) : P (s.disconnectConnection connectionId) := by
  simp only [disconnectConnection]
  generalize (s.sessions.toList.filter _).map Prod.fst = deviceIds
  induction deviceIds generalizing s with
  | nil => exact h
  | cons d deviceIds ih => exact ih (keep s connectionId (some d) h)

/-- What every reachable state with a faithful registry satisfies. -/
structure Tidy (s : LiveState) : Prop where
  exact : s.Exact
  keyed : s.ingress.sessionManager.WellKeyed

theorem tidy_new : Tidy (new .default) := by
  refine ⟨?_, CompanionSessionManager.wellKeyed_default⟩
  intro deviceId
  simp [new, CompanionRegistry.ids, CompanionRegistry.default]

theorem Tidy.disconnect (h : s.Tidy) (connectionId : UInt64) (deviceId : Option String) :
    (s.disconnect connectionId deviceId).Tidy := by
  rcases s.disconnect_cases connectionId deviceId with hsame | ⟨d, hgone⟩
  · rw [hsame]
    exact h
  · rw [hgone]
    refine ⟨?_, h.keyed⟩
    intro d'
    show d' ∈ (s.registry.remove d).ids ↔ d' ∈ s.sessions.erase d
    rw [CompanionRegistry.mem_ids_remove, Keyed.mem_erase_iff, h.exact d']

theorem disconnect_ids {deviceId : Option String} {d : String}
    (h : d ∈ (s.disconnect connectionId deviceId).registry.ids) : d ∈ s.registry.ids := by
  rcases s.disconnect_cases connectionId deviceId with hsame | ⟨gone, hgone⟩
  · rwa [hsame] at h
  · rw [hgone] at h
    exact ((CompanionRegistry.mem_ids_remove s.registry gone d).mp h).2

end LiveState

namespace LiveOp

variable {s : LiveState}

/-- The step goes right: afterwards the listed devices are those with a handle, and a device
that was not listed is so only by a hello of its own. -/
def Faithful (s : LiveState) (op : LiveOp) : Prop :=
  (step s op).Exact ∧
    ∀ d, d ∈ (step s op).registry.ids → d ∈ s.registry.ids ∨ op.TakesHello d

/-- Every device with a session still has its handle, or greets again with this very envelope;
and a hello names one device, in the envelope as in the payload, or only devices that have a
handle already. -/
def Clean (s : LiveState) : LiveOp → Prop
  | accept _ _ _ envelope => envelope.Announces →
    (∀ d ∈ s.ingress.sessionManager.sessions.keys,
      d ∈ s.sessions ∨ helloDevice envelope = some d) ∧
    (∀ d ∈ helloDevice envelope, d ∈ s.sessions ∨ envelope.deviceId = some d) ∧
    (envelope.kind = .hello →
      ∀ d ∈ envelope.deviceId, d ∈ s.sessions ∨ helloDevice envelope = some d)
  | _ => True

instance (s : LiveState) : (op : LiveOp) → Decidable (Clean s op)
  | accept _ _ _ envelope =>
    inferInstanceAs (Decidable (envelope.Announces →
      (∀ d ∈ s.ingress.sessionManager.sessions.keys,
        d ∈ s.sessions ∨ helloDevice envelope = some d) ∧
      (∀ d ∈ helloDevice envelope, d ∈ s.sessions ∨ envelope.deviceId = some d) ∧
      (envelope.kind = .hello →
        ∀ d ∈ envelope.deviceId, d ∈ s.sessions ∨ helloDevice envelope = some d)))
  | disconnect .. => instDecidableTrue
  | disconnectConnection .. => instDecidableTrue

theorem hello_of_helloDevice {envelope : QuicEnvelope} {d : String}
    (h : helloDevice envelope = some d) : envelope.kind = .hello := by
  by_contra hkind
  simp [helloDevice, hkind] at h

theorem faithful_iff_clean (h : s.Tidy) (op : LiveOp) : Faithful s op ↔ Clean s op := by
  cases op with
  | accept connectionId outgoing closed envelope =>
    by_cases ha : envelope.Announces
    · obtain ⟨hregistry, hmanager, hsessions⟩ := @LiveState.acceptEnvelope_announcing s connectionId
        outgoing closed envelope ha
      have hvalid := LiveState.valid_of_announces ha
      have keyed : (s.ingress.handleEnvelope envelope).1.sessionManager.WellKeyed := by
        rw [s.ingress.handleEnvelope_sessions hvalid]
        exact h.keyed.handleEnvelope hvalid
      have listed (d : String) :
          d ∈ (step s (accept connectionId outgoing closed envelope)).registry.ids ↔
            (d ∈ s.ingress.sessionManager.sessions ∨ helloDevice envelope = some d) ∨
              d ∈ s.sessions := by
        rw [step, hregistry, CompanionRegistry.mem_ids_upsertAll,
          CompanionSessionManager.mem_devices_ids keyed,
          s.ingress.handleEnvelope_sessions hvalid,
          CompanionSessionManager.mem_handleEnvelope _ hvalid, h.exact d]
      have handled (d : String) :
          d ∈ (step s (accept connectionId outgoing closed envelope)).sessions ↔
            d ∈ s.sessions ∨ envelope.kind = .hello ∧ envelope.deviceId = some d := by
        rw [step, hsessions, LiveState.mem_bindHello]
      simp only [Faithful, LiveState.Exact, Clean, TakesHello, listed, handled, h.exact _, ha,
        true_and, forall_const, Std.ExtTreeMap.mem_keys, Option.mem_def]
      have kind := @hello_of_helloDevice envelope
      grind
    · obtain ⟨hregistry, -, hsessions⟩ := @LiveState.acceptEnvelope_quiet s connectionId outgoing
        closed envelope ha
      simp only [Faithful, LiveState.Exact, Clean, ha, false_imp_iff, iff_true, step, hregistry,
        hsessions]
      exact ⟨h.exact, fun d hd => Or.inl hd⟩
  | disconnect connectionId deviceId =>
    refine iff_of_true ⟨(h.disconnect connectionId deviceId).exact, ?_⟩ trivial
    intro d hd
    exact Or.inl (LiveState.disconnect_ids hd)
  | disconnectConnection connectionId =>
    have hgone : (s.disconnectConnection connectionId).Tidy ∧
        ∀ d, d ∈ (s.disconnectConnection connectionId).registry.ids → d ∈ s.registry.ids := by
      refine LiveState.disconnectConnection_keeps
        (P := fun s' => s'.Tidy ∧ ∀ d, d ∈ s'.registry.ids → d ∈ s.registry.ids) ?_
        ⟨h, fun d hd => hd⟩
      intro s' c deviceId hs'
      exact ⟨hs'.1.disconnect c deviceId, fun d hd => hs'.2 d (LiveState.disconnect_ids hd)⟩
    exact iff_of_true ⟨hgone.1.exact, fun d hd => Or.inl (hgone.2 d hd)⟩ trivial

theorem step_keyed (op : LiveOp) (h : s.ingress.sessionManager.WellKeyed) :
    (step s op).ingress.sessionManager.WellKeyed := by
  cases op with
  | accept connectionId outgoing closed envelope =>
    by_cases ha : envelope.Announces
    · have hvalid := LiveState.valid_of_announces ha
      rw [step, (LiveState.acceptEnvelope_announcing ha).2.1,
        s.ingress.handleEnvelope_sessions hvalid]
      exact h.handleEnvelope hvalid
    · rw [step, (LiveState.acceptEnvelope_quiet ha).2.1]
      exact h
  | disconnect connectionId deviceId =>
    rcases s.disconnect_cases connectionId deviceId with hsame | ⟨d, hgone⟩
    · rwa [step, hsame]
    · rwa [step, hgone]
  | disconnectConnection connectionId =>
    refine LiveState.disconnectConnection_keeps
      (P := fun s' => s'.ingress.sessionManager.WellKeyed) ?_ h
    intro s' c deviceId hs'
    rcases s'.disconnect_cases c deviceId with hsame | ⟨d, hgone⟩
    · rwa [hsame]
    · rwa [hgone]

theorem tidy_step (op : LiveOp) (h : s.Tidy) (hc : Clean s op) : (step s op).Tidy :=
  ⟨((faithful_iff_clean h op).mpr hc).1, step_keyed op h.keyed⟩

/-- A device that is not listed stays so while no hello of its own is taken. -/
theorem unlisted_run {ops : List LiveOp} {d : String} (hf : Along step Faithful s ops)
    (quiet : Along step (fun _ op => ¬op.TakesHello d) s ops) (h : d ∉ s.registry.ids) :
    d ∉ (run step s ops).registry.ids := by
  refine run_invariant (fun s => d ∉ s.registry.ids) ?_ h (along_and.mpr ⟨hf, quiet⟩)
  intro s op hs hop hlisted
  rcases hop.1.2 d hlisted with hbefore | hhello
  · exact hs hbefore
  · exact hop.2 hhello

end LiveOp

/-- The transport as the program starts it, with an empty registry. -/
def LiveState.start : LiveState := .new .default

/-- The registry is faithful after every step exactly when every step is clean; along such a run
the listed devices are at every moment those with a live handle, and a device that is not listed
is not listed again before a hello of its own is taken. -/
theorem registry_lists_live_connections (ops : List LiveOp) :
    (Along LiveOp.step LiveOp.Clean .start ops ↔ Along LiveOp.step LiveOp.Faithful .start ops) ∧
    (Along LiveOp.step LiveOp.Clean .start ops → ∀ pre mid post, ops = pre ++ mid ++ post →
      (run LiveOp.step .start pre).Exact ∧
      ∀ d, d ∉ (run LiveOp.step .start pre).registry.ids →
        Along LiveOp.step (fun _ op => ¬op.TakesHello d) (run LiveOp.step .start pre) mid →
        d ∉ (run LiveOp.step .start (pre ++ mid)).registry.ids) := by
  have same (s : LiveState) (ops : List LiveOp) (h : s.Tidy) :
      Along LiveOp.step LiveOp.Clean s ops ↔ Along LiveOp.step LiveOp.Faithful s ops :=
    along_congr LiveState.Tidy (fun _ op => LiveOp.tidy_step op)
      (fun _ op h => (LiveOp.faithful_iff_clean h op).symm) h
  refine ⟨same .start ops LiveState.tidy_new, ?_⟩
  intro hclean pre mid post he
  subst he
  rw [along_append, along_append] at hclean
  obtain ⟨⟨hpre, hmid⟩, -⟩ := hclean
  have tidy : (run LiveOp.step .start pre).Tidy :=
    run_invariant LiveState.Tidy (fun _ op => LiveOp.tidy_step op) LiveState.tidy_new hpre
  refine ⟨tidy.exact, ?_⟩
  intro d hd hquiet
  rw [run_append]
  exact LiveOp.unlisted_run ((same _ mid tidy).mp hmid) hquiet hd

def sampleHello (deviceId : String) : QuicEnvelope :=
  coreEnvelope "hello" none (some deviceId) .hello (.object
    [("appVersion", .string "0.13.0"), ("deviceId", .string deviceId),
      ("deviceName", .string "Test phone"), ("androidSdk", .number (.posInt 35)),
      ("supportedProtocolVersions", .array [.number (.posInt 1)])])

def sampleHeartbeat (deviceId : String) : QuicEnvelope :=
  coreEnvelope "heartbeat" none (some deviceId) .heartbeat .null

/-- The first phone reconnects before its old connection ends, then goes and comes again. -/
theorem registry_lists_live_connections_reconnect :
    Along LiveOp.step LiveOp.Faithful .start
      [.accept 1 1 false (sampleHello "phone-a"), .accept 2 2 false (sampleHello "phone-b"),
        .accept 3 3 false (sampleHello "phone-a"), .disconnectConnection 1,
        .accept 3 3 false (sampleHeartbeat "phone-a"), .disconnect 3 (some "phone-a"),
        .accept 4 4 true (sampleHello "phone-a")] :=
  (registry_lists_live_connections _).1.mp (by decide)

/-- Two phones connect, the first one goes, the second one sends a heartbeat. -/
def heartbeatAfterDisconnect : List LiveOp :=
  [.accept 1 1 false (sampleHello "phone-a"), .accept 2 2 false (sampleHello "phone-b"),
    .disconnectConnection 1, .accept 2 2 false (sampleHeartbeat "phone-b")]

/-- The heartbeat of the second phone lists the first one again. -/
theorem heartbeat_lists_disconnected :
    ¬∀ (ops : List LiveOp) (d : String),
      d ∈ (run LiveOp.step .start ops).registry.ids ↔ d ∈ (run LiveOp.step .start ops).sessions := by
  intro h
  have hlisted : "phone-a" ∈ (run LiveOp.step .start heartbeatAfterDisconnect).registry.ids := by
    decide
  have hgone : "phone-a" ∉ (run LiveOp.step .start heartbeatAfterDisconnect).sessions := by
    decide
  exact hgone ((h heartbeatAfterDisconnect "phone-a").mp hlisted)

end AdbControl.Companion
