import AdbControl.Companion.Commands

namespace AdbControl.Companion

open Framework

/-- How a call can move: every enabled step of a caller is one of these. -/
inductive Call.Moves (call : Call) : CallStep → Phase → PendingChange → Prop
  | registers (handle : SessionHandle) (h : call.phase = .lookedUp handle) :
    Moves call .register (.registered handle) .insert
  | sends (handle : SessionHandle) (h : call.phase = .registered handle) :
    Moves call (.send false) .waiting .keep
  | failsToSend (handle : SessionHandle) (h : call.phase = .registered handle) :
    Moves call (.send true) .sendFailed .keep
  | receives (response : QuicEnvelope) (h : call.phase = .waiting)
    (hinbox : call.inbox = some response) :
    Moves call .receive (.returned (commandResult response)) .keep
  | stopsWaiting (step : CallStep) (h : call.phase = .waiting) (hinbox : call.inbox = none) :
    Moves call step .timedOut .keep
  | reportsSend (h : call.phase = .sendFailed) :
    Moves call .cleanUp (.returned (.error commandSendFailed)) .remove
  | givesUp (h : call.phase = .timedOut) : Moves call .cleanUp .gaveUp .remove

theorem Call.moves_of_next {call : Call} {held : Bool} {step : CallStep} {phase : Phase}
    {change : PendingChange} (h : call.next held step = some (phase, change)) :
    call.Moves step phase change := by
  cases step with
  | register =>
    simp only [next] at h
    split at h
    · next handle hphase =>
      cases h
      exact .registers handle hphase
    · cases h
  | send closed =>
    simp only [next] at h
    split at h
    · next handle hphase =>
      cases closed with
      | true =>
        cases h
        exact .failsToSend handle hphase
      | false =>
        cases h
        exact .sends handle hphase
    · cases h
  | receive =>
    simp only [next] at h
    split at h
    · next response hphase hinbox =>
      cases h
      exact .receives response hphase hinbox
    · next hphase hinbox =>
      cases held with
      | true => cases h
      | false =>
        cases h
        exact .stopsWaiting _ hphase hinbox
    · cases h
  | timeout =>
    simp only [next] at h
    split at h
    · next hphase hinbox =>
      cases h
      exact .stopsWaiting _ hphase hinbox
    · cases h
  | cleanUp =>
    simp only [next] at h
    split at h
    · next hphase =>
      cases h
      exact .reportsSend hphase
    · next hphase =>
      cases h
      exact .givesUp hphase
    · cases h

namespace LiveOp

/-- An envelope that a connection brings takes the waiter under its request id out of the pending
map when it is a response, and is handed to that waiter. -/
theorem accept_answered (s : LiveState) (connectionId : UInt64) (outgoing : Nat) (closed : Bool)
    (envelope : QuicEnvelope) :
    ((accept connectionId outgoing closed envelope).step s).pending =
      (match (accept connectionId outgoing closed envelope).response with
      | some r => s.pending.erase r.2.answeredId
      | none => s.pending) ∧
    (accept connectionId outgoing closed envelope).delivered s =
      match (accept connectionId outgoing closed envelope).response with
      | some r => s.pending[r.2.answeredId]?.map (fun n => (n, r.2))
      | none => none := by
  simp only [step, delivered, response, LiveState.acceptEnvelope]
  cases hv : validateQuicEnvelope envelope with
  | error e => simp [Except.isOk, Except.toBool]
  | ok u =>
    cases hr : envelope.isResponse with
    | true => simp [Except.isOk, Except.toBool]
    | false =>
      simp only [Bool.false_eq_true, if_false, and_false]
      split_ifs <;> exact ⟨rfl, rfl⟩

/-- Only a response takes a waiter out of the pending map, the one under its request id. -/
theorem step_pending (s : LiveState) (op : LiveOp) :
    (op.step s).pending = match op.response with
      | some r => s.pending.erase r.2.answeredId
      | none => s.pending := by
  cases op with
  | accept connectionId outgoing closed envelope =>
    exact (accept_answered s connectionId outgoing closed envelope).1
  | disconnect connectionId deviceId =>
    rcases s.disconnect_cases connectionId deviceId with hsame | ⟨d, hgone⟩
    · rw [step, hsame]
      rfl
    · rw [step, hgone]
      rfl
  | disconnectConnection connectionId =>
    refine LiveState.disconnectConnection_keeps (P := fun s' => s'.pending = s.pending) ?_ rfl
    intro s' c deviceId hs'
    rcases s'.disconnect_cases c deviceId with hsame | ⟨d, hgone⟩
    · rwa [hsame]
    · rwa [hgone]

theorem delivered_eq (s : LiveState) (op : LiveOp) :
    op.delivered s = match op.response with
      | some r => s.pending[r.2.answeredId]?.map (fun n => (n, r.2))
      | none => none := by
  cases op with
  | accept connectionId outgoing closed envelope =>
    exact (accept_answered s connectionId outgoing closed envelope).2
  | disconnect connectionId deviceId => rfl
  | disconnectConnection connectionId => rfl

end LiveOp

namespace Commands

variable {s : Commands}

/-- A caller's step moves its call and changes the pending map under its request id, or does
nothing. -/
theorem step_call_cases (s : Commands) (n : Nat) (step' : CallStep) :
    step s (.call n step') = s ∨ ∃ (call : Call) (phase : Phase) (change : PendingChange),
      s.calls[n]? = some call ∧ call.Moves step' phase change ∧
      step s (.call n step') =
        ⟨{ s.live with pending := change.apply s.live.pending call.requestId n },
          s.calls.insert n { call with phase }⟩ := by
  simp only [step]
  cases hcall : s.calls[n]? with
  | none => exact Or.inl rfl
  | some call =>
    cases hnext : call.next (s.live.pending[call.requestId]? == some n) step' with
    | none => simp [hnext]
    | some moved =>
      obtain ⟨phase, change⟩ := moved
      exact Or.inr ⟨call, phase, change, rfl, Call.moves_of_next hnext, by simp [hnext]⟩

/-- A step of the transport puts a response into the buffer of the call that waits under its
request id, or leaves all calls alone. -/
theorem step_transport_cases (s : Commands) (op : LiveOp) :
    (∃ (r : UInt64 × QuicEnvelope) (n : Nat) (call : Call), op.response = some r ∧
      s.live.pending[r.2.answeredId]? = some n ∧ s.calls[n]? = some call ∧
      step s (.transport op) =
        ⟨op.step s.live, s.calls.insert n { call with inbox := some r.2 }⟩) ∨
    (∀ r n, op.response = some r → s.live.pending[r.2.answeredId]? = some n →
      s.calls[n]? = none) ∧ step s (.transport op) = ⟨op.step s.live, s.calls⟩ := by
  simp only [step, LiveOp.delivered_eq]
  cases hr : op.response with
  | none => exact Or.inr ⟨fun r n hr' => (by cases hr'), rfl⟩
  | some r =>
    cases hn : s.live.pending[r.2.answeredId]? with
    | none =>
      refine Or.inr ⟨?_, by simp [hn, deliver]⟩
      intro r' n' hr' hn'
      cases hr'
      rw [hn] at hn'
      cases hn'
    | some n =>
      cases hcall : s.calls[n]? with
      | none =>
        refine Or.inr ⟨?_, by simp [hn, hcall, deliver]⟩
        intro r' n' hr' hn'
        cases hr'
        rw [hn] at hn'
        cases hn'
        exact hcall
      | some call => exact Or.inl ⟨r, n, call, rfl, hn, hcall, by simp [hn, hcall, deliver]⟩

end Commands

namespace Phase

/-- The call's waiter may be in the pending map. -/
def holding : Phase → Bool
  | registered _ | waiting | sendFailed | timedOut => true
  | _ => false

def isLookedUp : Phase → Bool
  | lookedUp _ => true
  | _ => false

/-- The command is not handed over yet. -/
def unsent : Phase → Bool
  | lookedUp _ | registered _ => true
  | _ => false

/-- The waiter is registered, and a response still reaches the caller. -/
def awaits : Phase → Bool
  | registered _ | waiting => true
  | _ => false

/-- Nothing has failed or ended yet. -/
def active : Phase → Bool
  | lookedUp _ | registered _ | waiting => true
  | _ => false

end Phase

/-- The call's command is unanswered, or its waiter is still to be removed. A command that timed
out counts as unanswered for good: its response may come at any later time. -/
def Call.inFlight (call : Call) : Bool :=
  match call.phase with
  | .registered _ | .sendFailed | .timedOut | .gaveUp => true
  | .waiting => call.inbox.isNone
  | _ => false

/-- The connection that the device is bound to. -/
def LiveState.boundTo (s : LiveState) (connectionId : UInt64) (deviceId : String) : Bool :=
  s.sessions[deviceId]?.any (fun handle => handle.connectionId == connectionId)

/-- A response that the call is found waiting for comes after the call's command was sent, on the
connection that the call's device is bound to. -/
def Commands.inTurn (s : Commands) (connectionId : UInt64) (waiter : Call) : Bool :=
  match waiter.phase with
  | .registered _ => false
  | .waiting => s.live.boundTo connectionId waiter.deviceId
  | _ => true

/-- A caller registers under a request id that no unanswered command has; and a response comes in
its turn for the call that waits under its request id. -/
def Act.Clean (s : Commands) : Act → Prop
  | call n .register => ∀ caller ∈ s.calls[n]?, caller.phase.isLookedUp = true →
    ∀ e ∈ s.calls.toList, e.2.inFlight = true → e.2.requestId ≠ caller.requestId
  | transport op => ∀ r ∈ op.response, ∀ n ∈ s.live.pending[r.2.answeredId]?,
    ∀ waiter ∈ s.calls[n]?, s.inTurn r.1 waiter = true
  | _ => True

instance (s : Commands) : (a : Act) → Decidable (Act.Clean s a)
  | .call n .register =>
    inferInstanceAs (Decidable (∀ caller ∈ s.calls[n]?, caller.phase.isLookedUp = true →
      ∀ e ∈ s.calls.toList, e.2.inFlight = true → e.2.requestId ≠ caller.requestId))
  | .transport op =>
    inferInstanceAs (Decidable (∀ r ∈ op.response, ∀ n ∈ s.live.pending[r.2.answeredId]?,
      ∀ waiter ∈ s.calls[n]?, s.inTurn r.1 waiter = true))
  | .start .. | .call _ (.send _) | .call _ .receive | .call _ .timeout | .call _ .cleanUp =>
    instDecidableTrue

namespace Commands

variable {s : Commands}

/-- How the pending map and the calls belong together. -/
structure Linked (s : Commands) : Prop where
  held : ∀ (requestId : String) (n : Nat), s.live.pending[requestId]? = some n →
    ∃ call, s.calls[n]? = some call ∧ call.requestId = requestId ∧
      call.phase.holding = true ∧ call.inbox = none
  unsent : ∀ (n : Nat) (call : Call), s.calls[n]? = some call → call.phase.unsent = true →
    call.inbox = none
  waits : ∀ (n : Nat) (call : Call), s.calls[n]? = some call → call.phase.awaits = true →
    call.inbox = none → s.live.pending[call.requestId]? = some n
  alone : ∀ (n m : Nat) (call other : Call), s.calls[n]? = some call → s.calls[m]? = some other →
    call.inFlight = true → other.inFlight = true → call.requestId = other.requestId → n = m

theorem linked_start : start.Linked := by
  refine ⟨?_, ?_, ?_, ?_⟩
  · intro requestId n h
    simp [start, LiveState.start, LiveState.new] at h
  · intro n call h
    simp [start] at h
  · intro n call h
    simp [start] at h
  · intro n m call other h
    simp [start] at h

/-- What has to be seen to when one call is written, for the other calls to stay linked. -/
theorem Linked.write (h : s.Linked) (live : LiveState) (n : Nat) (call : Call)
    (held : ∀ (requestId : String) (m : Nat), live.pending[requestId]? = some m →
      m = n ∧ call.requestId = requestId ∧ call.phase.holding = true ∧ call.inbox = none ∨
      m ≠ n ∧ s.live.pending[requestId]? = some m)
    (unsent : call.phase.unsent = true → call.inbox = none)
    (waits : call.phase.awaits = true → call.inbox = none →
      live.pending[call.requestId]? = some n)
    (others : ∀ (m : Nat) (other : Call), m ≠ n → s.calls[m]? = some other →
      other.phase.awaits = true → other.inbox = none →
      s.live.pending[other.requestId]? = some m → live.pending[other.requestId]? = some m)
    (alone : call.inFlight = true → ∀ (m : Nat) (other : Call), m ≠ n → s.calls[m]? = some other →
      other.inFlight = true → other.requestId ≠ call.requestId) :
    Linked ⟨live, s.calls.insert n call⟩ := by
  refine ⟨?_, ?_, ?_, ?_⟩
  · intro requestId m hm
    rw [Keyed.lookup_insert]
    rcases held requestId m hm with ⟨he, hcall⟩ | ⟨hne, hm⟩
    · exact ⟨call, by rw [if_pos he], hcall⟩
    · rw [if_neg hne]
      exact h.held requestId m hm
  · intro m other hm hphase
    rcases Keyed.lookup_insert_cases hm with ⟨rfl, rfl⟩ | ⟨-, hm⟩
    · exact unsent hphase
    · exact h.unsent m other hm hphase
  · intro m other hm hphase hinbox
    rcases Keyed.lookup_insert_cases hm with ⟨rfl, rfl⟩ | ⟨he, hm⟩
    · exact waits hphase hinbox
    · exact others m other he hm hphase hinbox (h.waits m other hm hphase hinbox)
  · intro m k one other hm hk hone hother hid
    rw [Keyed.lookup_insert] at hm hk
    split_ifs at hm hk with hmn hkn hkn
    · rw [hmn, hkn]
    · cases hm
      exact (alone hone k other hkn hk hother hid.symm).elim
    · cases hk
      exact (alone hother m one hmn hm hone hid).elim
    · exact h.alone m k one other hm hk hone hother hid

/-- A call that starts waits for nothing yet. -/
theorem Linked.begin (h : s.Linked) (n : Nat) (deviceId : String) (envelope : QuicEnvelope) :
    (step s (.start n deviceId envelope)).Linked := by
  simp only [step]
  split_ifs with hn
  · exact h
  have hnone : s.calls[n]? = none := by
    rw [Std.ExtTreeMap.mem_iff_isSome_getElem?] at hn
    simpa using hn
  have fresh (session : Option SessionHandle) :
      (Call.start session deviceId envelope).inbox = none ∧
      (Call.start session deviceId envelope).phase.awaits = false ∧
      (Call.start session deviceId envelope).inFlight = false := by
    cases session <;> exact ⟨rfl, rfl, rfl⟩
  obtain ⟨hinbox, hawaits, hflight⟩ := fresh s.live.sessions[deviceId]?
  refine h.write s.live n _ ?_ (fun _ => hinbox) ?_ (fun _ _ _ _ _ _ hm => hm) ?_
  · intro requestId m hm
    refine Or.inr ⟨?_, hm⟩
    intro he
    obtain ⟨call, hcall, -⟩ := h.held requestId m hm
    rw [he, hnone] at hcall
    cases hcall
  · intro hphase
    rw [hawaits] at hphase
    cases hphase
  · intro hflight'
    rw [hflight] at hflight'
    cases hflight'

theorem Linked.transport (h : s.Linked) (op : LiveOp) (hc : Act.Clean s (.transport op)) :
    (step s (.transport op)).Linked := by
  rcases step_transport_cases s op with ⟨r, n, call, hr, hn, hcall, hstep⟩ | ⟨hidle, hstep⟩
  · obtain ⟨found, hfound, hid, hholding, hinbox⟩ := h.held r.2.answeredId n hn
    rw [hcall] at hfound
    cases hfound
    have hclean := hc r hr n hn call hcall
    have hpending : (op.step s.live).pending = s.live.pending.erase r.2.answeredId := by
      rw [LiveOp.step_pending, hr]
    have apart (m : Nat) (other : Call) (hm : m ≠ n)
        (hwaits : s.live.pending[other.requestId]? = some m) : other.requestId ≠ r.2.answeredId := by
      intro he
      rw [he, hn] at hwaits
      exact hm (Option.some.inj hwaits).symm
    rw [hstep]
    refine h.write _ n _ ?_ ?_ (fun _ hnone => by cases hnone) ?_ ?_
    · intro requestId m hm
      rw [hpending, Keyed.lookup_erase] at hm
      split_ifs at hm with he
      refine Or.inr ⟨?_, hm⟩
      intro hmn
      obtain ⟨other, hother, hid', -⟩ := h.held requestId m hm
      rw [hmn, hcall] at hother
      cases hother
      exact he (hid'.symm.trans hid)
    · intro hunsent
      -- the response came after the command was sent
      cases hphase : call.phase with
      | registered handle => simp [inTurn, hphase] at hclean
      | _ => simp [hphase, Phase.unsent, Phase.holding] at hunsent hholding
    · intro m other hm hother hphase hnone hwaits
      rw [hpending, Keyed.lookup_erase, if_neg (apart m other hm hwaits)]
      exact hwaits
    · intro hflight m other hm hother hflight' hid'
      have hflight₀ : call.inFlight = true := by
        cases hphase : call.phase <;> simp_all [Call.inFlight]
      exact hm (h.alone m n other call hother hcall hflight' hflight₀ hid')
  · have hpending : (op.step s.live).pending = s.live.pending := by
      rw [LiveOp.step_pending]
      cases hr : op.response with
      | none => rfl
      | some r =>
        refine Keyed.erase_eq_self.mpr ?_
        cases hn : s.live.pending[r.2.answeredId]? with
        | none => rfl
        | some n =>
          obtain ⟨call, hcall, -⟩ := h.held r.2.answeredId n hn
          rw [hidle r n hr hn] at hcall
          cases hcall
    rw [hstep]
    refine ⟨?_, h.unsent, ?_, h.alone⟩
    · rw [hpending]
      exact h.held
    · rw [hpending]
      exact h.waits

/-- A move that leaves the pending map alone: the call holds its waiter no less than before, and
awaits its response or is in flight only if it was before. -/
theorem Linked.move (h : s.Linked) (n : Nat) (call : Call) (phase : Phase)
    (hcall : s.calls[n]? = some call)
    (hholding : call.phase.holding = true → call.inbox = none → phase.holding = true)
    (hunsent : phase.unsent = false)
    (hawaits : phase.awaits = true → call.phase.awaits = true)
    (hflight : Call.inFlight { call with phase } = true → call.inFlight = true) :
    Linked ⟨s.live, s.calls.insert n { call with phase }⟩ := by
  refine h.write s.live n _ ?_ ?_ ?_ (fun _ _ _ _ _ _ hm => hm) ?_
  · intro requestId m hm
    by_cases hmn : m = n
    · obtain ⟨other, hother, hid, hphase, hinbox⟩ := h.held requestId m hm
      rw [hmn, hcall] at hother
      cases hother
      exact Or.inl ⟨hmn, hid, hholding hphase hinbox, hinbox⟩
    · exact Or.inr ⟨hmn, hm⟩
  · intro hphase
    rw [show Phase.unsent _ = false from hunsent] at hphase
    cases hphase
  · intro hphase hinbox
    exact h.waits n call hcall (hawaits hphase) hinbox
  · intro hone m other hm hother hflight' hid
    exact hm (h.alone m n other call hother hcall hflight' (hflight hone) hid)

/-- A waiter is removed by the call it stands for: no other call waits under its request id. -/
theorem Linked.cleanUp (h : s.Linked) (n : Nat) (call : Call) (phase : Phase)
    (hcall : s.calls[n]? = some call) (hflight : call.inFlight = true)
    (hquiet : phase.awaits = false ∧ phase.unsent = false) :
    Linked ⟨{ s.live with pending := s.live.pending.erase call.requestId },
      s.calls.insert n { call with phase }⟩ := by
  refine h.write _ n _ ?_ ?_ ?_ ?_ ?_
  · intro requestId m hm
    rw [Keyed.lookup_erase] at hm
    split_ifs at hm with he
    refine Or.inr ⟨?_, hm⟩
    intro hmn
    obtain ⟨other, hother, hid, -⟩ := h.held requestId m hm
    rw [hmn, hcall] at hother
    cases hother
    exact he hid.symm
  · intro hphase
    rw [show Phase.unsent _ = false from hquiet.2] at hphase
    cases hphase
  · intro hphase
    rw [show Phase.awaits _ = false from hquiet.1] at hphase
    cases hphase
  · intro m other hm hother hphase hinbox hwaits
    have hne : other.requestId ≠ call.requestId := by
      intro hid
      have hflight' : other.inFlight = true := by
        cases ho : other.phase <;> simp_all [Call.inFlight, Phase.awaits]
      exact hm (h.alone m n other call hother hcall hflight' hflight hid)
    rw [Keyed.lookup_erase, if_neg hne]
    exact hwaits
  · intro hone m other hm hother hflight' hid
    exact hm (h.alone m n other call hother hcall hflight' hflight hid)

/-- Under a request id that no unanswered command has, a waiter can be registered. -/
theorem Linked.register (h : s.Linked) (n : Nat) (call : Call) (handle : SessionHandle)
    (hcall : s.calls[n]? = some call) (hphase : call.phase = .lookedUp handle)
    (free : ∀ (m : Nat) (other : Call), s.calls[m]? = some other → other.inFlight = true →
      other.requestId ≠ call.requestId) :
    Linked ⟨{ s.live with pending := s.live.pending.insert call.requestId n },
      s.calls.insert n { call with phase := .registered handle }⟩ := by
  have hinbox : call.inbox = none := h.unsent n call hcall (by rw [hphase]; rfl)
  refine h.write _ n _ ?_ (fun _ => hinbox) ?_ ?_ ?_
  · intro requestId m hm
    rcases Keyed.lookup_insert_cases hm with ⟨he, rfl⟩ | ⟨he, hm⟩
    · exact Or.inl ⟨rfl, he.symm, rfl, hinbox⟩
    · refine Or.inr ⟨?_, hm⟩
      intro hmn
      obtain ⟨other, hother, hid, hholding, -⟩ := h.held requestId m hm
      rw [hmn, hcall] at hother
      cases hother
      exact he hid.symm
  · intro _ _
    rw [Keyed.lookup_insert]
    exact if_pos rfl
  · intro m other hm hother hphase' hinbox' hwaits
    have hflight : other.inFlight = true := by
      cases ho : other.phase <;> simp_all [Call.inFlight, Phase.awaits]
    rw [Keyed.lookup_insert, if_neg (free m other hother hflight)]
    exact hwaits
  · intro _ m other _ hother hflight
    exact free m other hother hflight

theorem Linked.advance (h : s.Linked) (n : Nat) (step' : CallStep)
    (hc : Act.Clean s (.call n step')) : (step s (.call n step')).Linked := by
  rcases step_call_cases s n step' with hsame | ⟨call, phase, change, hcall, hmoves, hstep⟩
  · rw [hsame]
    exact h
  rw [hstep]
  cases hmoves with
  | registers handle hphase =>
    refine h.register n call handle hcall hphase ?_
    intro m other hother
    have hentry : (m, other) ∈ s.calls.toList :=
      Std.ExtTreeMap.mem_toList_iff_getElem?_eq_some.mpr hother
    exact hc call hcall (by rw [hphase]; rfl) (m, other) hentry
  | sends handle hphase =>
    have hinbox : call.inbox = none := h.unsent n call hcall (by rw [hphase]; rfl)
    exact h.move n call .waiting hcall (fun _ _ => rfl) rfl (fun _ => by rw [hphase]; rfl)
      (fun _ => by simp [Call.inFlight, hphase])
  | failsToSend handle hphase =>
    exact h.move n call .sendFailed hcall (fun _ _ => rfl) rfl (fun ha => by cases ha)
      (fun _ => by simp [Call.inFlight, hphase])
  | receives response hphase hinbox =>
    exact h.move n call _ hcall (fun _ hnone => by simp [hinbox] at hnone) rfl
      (fun ha => by cases ha) (fun hf => by cases hf)
  | stopsWaiting _ hphase hinbox =>
    exact h.move n call .timedOut hcall (fun _ _ => rfl) rfl (fun ha => by cases ha)
      (fun _ => by simp [Call.inFlight, hphase, hinbox])
  | reportsSend hphase =>
    exact h.cleanUp n call _ hcall (by simp [Call.inFlight, hphase]) ⟨rfl, rfl⟩
  | givesUp hphase =>
    exact h.cleanUp n call _ hcall (by simp [Call.inFlight, hphase]) ⟨rfl, rfl⟩

theorem linked_step (a : Act) (h : s.Linked) (hc : Act.Clean s a) : (step s a).Linked := by
  cases a with
  | start n deviceId envelope => exact h.begin n deviceId envelope
  | call n step' => exact h.advance n step' hc
  | transport op => exact h.transport op hc

/-- The call waits, and the response has its request id and comes on the connection that the
call's device is bound to. -/
def Matches (s : Commands) (r : UInt64 × QuicEnvelope) (n : Nat) : Prop :=
  ∃ call, s.calls[n]? = some call ∧ call.phase = .waiting ∧ call.inbox = none ∧
    r.2.answeredId = call.requestId ∧ s.live.boundTo r.1 call.deviceId = true

/-- The response matches the call, and no other unanswered command has that request id. -/
def Answers (s : Commands) (r : UInt64 × QuicEnvelope) (n : Nat) : Prop :=
  s.Matches r n ∧ ∀ (m : Nat) (other : Call), s.calls[m]? = some other →
    other.inFlight = true → other.requestId = r.2.answeredId → m = n

/-- A response is handed to a call that is still active. -/
def Hands (n : Nat) (r : UInt64 × QuicEnvelope) (s : Commands) (a : Act) : Prop :=
  ∃ op, a = .transport op ∧ op.response = some r ∧
    s.live.pending[r.2.answeredId]? = some n ∧
    ∃ call, s.calls[n]? = some call ∧ call.phase.active = true

/-- Under a clean step, whoever is handed a response is answered by it. -/
theorem answers_of_hands {n : Nat} {r : UInt64 × QuicEnvelope} {a : Act} (h : s.Linked)
    (hc : Act.Clean s a) (hands : Hands n r s a) : s.Answers r n := by
  obtain ⟨op, rfl, hr, hn, call, hcall, hactive⟩ := hands
  obtain ⟨found, hfound, hid, hholding, hinbox⟩ := h.held _ n hn
  rw [hcall] at hfound
  cases hfound
  have hclean := hc r hr n hn call hcall
  cases hphase : call.phase with
  | waiting =>
    have hbound : s.live.boundTo r.1 call.deviceId = true := by simpa [inTurn, hphase] using hclean
    refine ⟨⟨call, hcall, hphase, hinbox, hid.symm, hbound⟩, ?_⟩
    intro m other hother hflight hid'
    have hflight₀ : call.inFlight = true := by simp [Call.inFlight, hphase, hinbox]
    exact h.alone m n other call hother hcall hflight hflight₀ (hid'.trans hid.symm)
  | registered handle => simp [inTurn, hphase] at hclean
  | lookedUp handle => simp [hphase, Phase.holding] at hholding
  | _ => simp [hphase, Phase.active] at hactive

/-- The call has the payload, or will have it as soon as it looks into its buffer. -/
def Gets (payload : Value) (n : Nat) (s : Commands) : Prop :=
  ∃ call, s.calls[n]? = some call ∧
    (call.phase = .returned (.ok payload) ∨ call.phase.active = true ∧
      ∃ response, call.inbox = some response ∧ commandResult response = .ok payload)

/-- A caller gets a payload only from a response that is handed to it. -/
theorem handed_of_gets {n : Nat} {payload : Value} (a : Act) (h : (step s a).Gets payload n) :
    (∃ r, Hands n r s a ∧ commandResult r.2 = .ok payload) ∨ s.Gets payload n := by
  obtain ⟨call, hcall, hgets⟩ := h
  cases a with
  | start m deviceId envelope =>
    simp only [step] at hcall
    split_ifs at hcall with hm
    · exact Or.inr ⟨call, hcall, hgets⟩
    rcases Keyed.lookup_insert_cases hcall with ⟨-, rfl⟩ | ⟨-, hcall⟩
    · cases hs : s.live.sessions[deviceId]? <;> simp [hs, Call.start] at hgets
    · exact Or.inr ⟨call, hcall, hgets⟩
  | call m step' =>
    rcases step_call_cases s m step' with hsame | ⟨old, phase, change, hold, hmoves, hstep⟩
    · rw [hsame] at hcall
      exact Or.inr ⟨call, hcall, hgets⟩
    simp only [hstep] at hcall
    rcases Keyed.lookup_insert_cases hcall with ⟨rfl, rfl⟩ | ⟨-, hcall⟩
    · refine Or.inr ⟨old, hold, Or.inr ?_⟩
      cases hmoves with
      | registers handle hphase => simpa [hphase, Phase.active] using hgets
      | sends handle hphase => simpa [hphase, Phase.active] using hgets
      | receives response hphase hinbox =>
        have hresult : commandResult response = .ok payload := by
          simpa [Phase.active] using hgets
        exact ⟨by rw [hphase]; rfl, response, hinbox, hresult⟩
      | _ => simp [Phase.active] at hgets
    · exact Or.inr ⟨call, hcall, hgets⟩
  | transport op =>
    rcases step_transport_cases s op with ⟨r, m, old, hr, hm, hold, hstep⟩ | ⟨-, hstep⟩
    · simp only [hstep] at hcall
      rcases Keyed.lookup_insert_cases hcall with ⟨rfl, rfl⟩ | ⟨-, hcall⟩
      · rcases hgets with hphase | ⟨hactive, response, hinbox, hresult⟩
        · exact Or.inr ⟨old, hold, Or.inl hphase⟩
        · cases hinbox
          exact Or.inl ⟨r, ⟨op, rfl, hr, hm, old, hold, hactive⟩, hresult⟩
      · exact Or.inr ⟨call, hcall, hgets⟩
    · rw [hstep] at hcall
      exact Or.inr ⟨call, hcall, hgets⟩

/-- The response has reached the caller: it stands in the buffer of the waiting call, or the call
has returned what it says. -/
def Reached (n : Nat) (response : QuicEnvelope) (s : Commands) : Prop :=
  ∃ call, s.calls[n]? = some call ∧
    (call.phase = .waiting ∧ call.inbox = some response ∨
      call.phase = .returned (commandResult response))

/-- A matching response goes to the call it matches and to no other one. -/
theorem reached_of_matches {n : Nat} {op : LiveOp} {r : UInt64 × QuicEnvelope} (h : s.Linked)
    (hr : op.response = some r) (hm : s.Matches r n) :
    (step s (.transport op)).Reached n r.2 ∧
      ∀ m, m ≠ n → (step s (.transport op)).calls[m]? = s.calls[m]? := by
  obtain ⟨call, hcall, hphase, hinbox, hid, -⟩ := hm
  have hn : s.live.pending[r.2.answeredId]? = some n := by
    rw [hid]
    exact h.waits n call hcall (by rw [hphase]; rfl) hinbox
  have hstep : step s (.transport op) =
      ⟨op.step s.live, s.calls.insert n { call with inbox := some r.2 }⟩ := by
    simp [step, LiveOp.delivered_eq, hr, hn, hcall, deliver]
  rw [hstep]
  refine ⟨⟨{ call with inbox := some r.2 }, ?_, Or.inl ⟨hphase, rfl⟩⟩, ?_⟩
  · rw [Keyed.lookup_insert, if_pos rfl]
  · intro m hm
    rw [Keyed.lookup_insert, if_neg hm]

/-- A response that has reached its caller stays there: nothing waits under the call any more. -/
theorem reached_step {n : Nat} {response : QuicEnvelope} (h : s.Linked) (a : Act)
    (hreached : s.Reached n response) : (step s a).Reached n response := by
  obtain ⟨call, hcall, hdone⟩ := hreached
  have gone (requestId : String) : s.live.pending[requestId]? ≠ some n := by
    intro hn
    obtain ⟨found, hfound, -, hholding, hinbox⟩ := h.held requestId n hn
    rw [hcall] at hfound
    cases hfound
    rcases hdone with ⟨-, hsome⟩ | hphase
    · rw [hinbox] at hsome
      cases hsome
    · simp [hphase, Phase.holding] at hholding
  cases a with
  | start m deviceId envelope =>
    simp only [step]
    split_ifs with hm
    · exact ⟨call, hcall, hdone⟩
    refine ⟨call, ?_, hdone⟩
    have hne : n ≠ m := by
      intro he
      exact hm ((Keyed.mem_iff_lookup s.calls m).mpr ⟨call, he ▸ hcall⟩)
    rw [Keyed.lookup_insert, if_neg hne]
    exact hcall
  | call m step' =>
    rcases step_call_cases s m step' with hsame | ⟨old, phase, change, hold, hmoves, hstep⟩
    · rw [hsame]
      exact ⟨call, hcall, hdone⟩
    rw [hstep]
    by_cases hn : n = m
    · subst hn
      rw [hcall] at hold
      cases hold
      refine ⟨{ call with phase }, by rw [Keyed.lookup_insert, if_pos rfl], ?_⟩
      cases hmoves with
      | receives found hphase hinbox =>
        rcases hdone with ⟨-, hsome⟩ | hreturned
        · rw [hinbox] at hsome
          cases hsome
          exact Or.inr rfl
        · simp [hreturned] at hphase
      | stopsWaiting _ hphase hinbox => simp [hphase, hinbox] at hdone
      | registers _ hphase | sends _ hphase | failsToSend _ hphase | reportsSend hphase
        | givesUp hphase => simp [hphase] at hdone
    · refine ⟨call, ?_, hdone⟩
      rw [Keyed.lookup_insert, if_neg hn]
      exact hcall
  | transport op =>
    refine ⟨call, ?_, hdone⟩
    rcases step_transport_cases s op with ⟨r, m, other, -, hm, -, hstep⟩ | ⟨-, hstep⟩
    · have hne : n ≠ m := by
        intro he
        exact gone _ (he ▸ hm)
      rw [hstep, Keyed.lookup_insert, if_neg hne]
      exact hcall
    · rw [hstep]
      exact hcall

theorem commandResult_ok {response : QuicEnvelope} {payload : Value}
    (h : commandResult response = .ok payload) : response.payload = payload := by
  simp only [commandResult] at h
  split_ifs at h
  exact Except.ok.inj h

/-- Command and response belong together all along the run. Every payload returned to a caller is
that of a response that answered the caller's own command, on the connection bound to its device;
every response that matches a waiting call reaches it and touches no other call; and a waiting call
is not cut off before its timeout. -/
structure Correlated (acts : List Act) : Prop where
  answered : ∀ (n : Nat) (call : Call) (payload : Value),
    (run step start acts).calls[n]? = some call → call.phase = .returned (.ok payload) →
    ∃ (pre : List Act) (op : LiveOp) (post : List Act) (r : UInt64 × QuicEnvelope),
      acts = pre ++ .transport op :: post ∧ op.response = some r ∧
      (run step start pre).Answers r n ∧ commandResult r.2 = .ok payload ∧ r.2.payload = payload
  delivered : ∀ (pre : List Act) (op : LiveOp) (post : List Act) (r : UInt64 × QuicEnvelope) (n : Nat),
    acts = pre ++ .transport op :: post → op.response = some r →
    (run step start pre).Matches r n →
    (run step start acts).Reached n r.2 ∧
      ∀ m, m ≠ n → (run step start (pre ++ [.transport op])).calls[m]? =
        (run step start pre).calls[m]?
  patient : ∀ (n : Nat) (call : Call), (run step start acts).calls[n]? = some call →
    call.phase = .waiting → call.inbox = none →
    step (run step start acts) (.call n .receive) = run step start acts

end Commands

/-- Along every run of calls, frames, timeouts and disconnects whose steps are all clean, commands
and responses belong together. -/
theorem command_responses_correlated (acts : List Act)
    (hclean : Along Commands.step Act.Clean .start acts) : Commands.Correlated acts := by
  have linked (pre post : List Act) (he : acts = pre ++ post) :
      (run Commands.step .start pre).Linked := by
    rw [he, along_append] at hclean
    exact run_invariant Commands.Linked (fun _ a => Commands.linked_step a) Commands.linked_start
      hclean.1
  refine ⟨?_, ?_, ?_⟩
  · intro n call payload hcall hphase
    have hgets : (run Commands.step .start acts).Gets payload n := ⟨call, hcall, Or.inl hphase⟩
    have only (s : Commands) (a : Act) (h : (Commands.step s a).Gets payload n) :
        (∃ r, Commands.Hands n r s a ∧ commandResult r.2 = .ok payload) ∨
          s.Gets payload n ∧ ¬False := (Commands.handed_of_gets a h).imp_right (⟨·, not_false⟩)
    have never : ¬Commands.start.Gets payload n := by
      intro h
      obtain ⟨call, hcall, -⟩ := h
      simp [Commands.start] at hcall
    obtain ⟨pre, a, post, he, ⟨r, hands, hresult⟩, -⟩ :=
      since_of_run (Commands.Gets payload n) never only acts hgets
    have hclean' := hclean
    rw [he] at hclean'
    have answers := Commands.answers_of_hands (linked pre (a :: post) he) hclean'.at hands
    obtain ⟨op, rfl, hr, -⟩ := hands
    exact ⟨pre, op, post, r, he, hr, answers, hresult, Commands.commandResult_ok hresult⟩
  · intro pre op post r n he hr hmatches
    have hl := linked pre (.transport op :: post) he
    obtain ⟨hreached, hothers⟩ := Commands.reached_of_matches hl hr hmatches
    refine ⟨?_, by rw [run_snoc]; exact hothers⟩
    have hafter := linked (pre ++ [.transport op]) post (by simp [he])
    rw [he, along_append] at hclean
    rw [he, run_append, run_cons]
    rw [run_snoc] at hafter
    exact (run_invariant (fun s => s.Linked ∧ s.Reached n r.2)
      (fun s a h hc => ⟨Commands.linked_step a h.1 hc, Commands.reached_step h.1 a h.2⟩)
      ⟨hafter, hreached⟩ hclean.2.2).2
  · intro n call hcall hphase hinbox
    have hn := (linked acts [] (by simp)).waits n call hcall (by rw [hphase]; rfl) hinbox
    simp [Commands.step, hcall, hn, Call.next, hphase, hinbox]

def volumeCommand (requestId deviceId : String) : QuicEnvelope :=
  buildCommandRequestEnvelope
    ⟨requestId, deviceId, "android.volume.media", "volume.get", .object []⟩

def volumeResponse (requestId : String) (volume : Nat) : QuicEnvelope :=
  coreEnvelope ("response-" ++ requestId) (some requestId) none .commandResponse (.object
    [("requestId", .string requestId), ("ok", .bool true), ("volume", .number (.posInt volume))])

/-- Two connected phones, and a caller for each of them with the given request ids. -/
def twoCallers (first second : String) : List Act :=
  [.transport (.accept 1 1 false (sampleHello "phone-a")),
    .transport (.accept 2 2 false (sampleHello "phone-b")),
    .start 1 "phone-a" (volumeCommand first "phone-a"),
    .start 2 "phone-b" (volumeCommand second "phone-b"),
    .call 1 .register, .call 1 (.send false), .call 2 .register, .call 2 (.send false)]

/-- Different request ids: each caller gets the response of its own phone, in whatever order. -/
theorem command_responses_correlated_two :
    Commands.Correlated (twoCallers "1" "2" ++
      [.transport (.accept 2 2 false (volumeResponse "2" 7)), .call 1 .receive, .call 2 .receive,
        .transport (.accept 1 1 false (volumeResponse "1" 3)), .call 1 .timeout,
        .call 1 .receive]) :=
  command_responses_correlated _ (by decide)

/-- Two clients that both count their requests from "1": the second caller's waiter replaces the
first one's, and the response of the first phone goes to the caller of the second phone. -/
theorem colliding_request_ids :
    ((run Commands.step .start (twoCallers "1" "1" ++
        [.transport (.accept 1 1 false (volumeResponse "1" 3)), .call 2 .receive])).calls[2]?.map
          Call.phase) = some (.returned (.ok (volumeResponse "1" 3).payload)) ∧
      ¬∀ acts, Commands.Correlated acts := by
  refine ⟨rfl, ?_⟩
  intro h
  have matched : (run Commands.step .start (twoCallers "1" "1")).Matches
      (1, volumeResponse "1" 3) 1 :=
    ⟨⟨"phone-a", volumeCommand "1" "phone-a", .waiting, none⟩, rfl, rfl, rfl, rfl, rfl⟩
  have untouched := ((h (twoCallers "1" "1" ++
      [.transport (.accept 1 1 false (volumeResponse "1" 3))])).delivered (twoCallers "1" "1")
    (.accept 1 1 false (volumeResponse "1" 3)) [] (1, volumeResponse "1" 3) 1 rfl rfl matched).2 2
    (by decide)
  have hinbox := congrArg (Option.map (fun call => call.inbox.isSome)) untouched
  exact absurd hinbox (by decide)

end AdbControl.Companion
