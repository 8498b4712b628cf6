import AdbControl.Framework.Run

namespace AdbControl.Companion

open Framework

structure ProjectionOptions where
  sessionId : String
  width : Int
  height : Int
  bitrate : Int
  frameRate : Int
  deriving DecidableEq, Repr

inductive ProjectionState
  | idle
  | awaitingConsent
  | starting
  | streaming
  | stopped
  | failed
  deriving DecidableEq, Repr

structure ProjectionSessionState where
  state : ProjectionState
  sessionId : Option String
  error : Option String
  deriving DecidableEq, Repr

/-- How a `MediaProjection` has come to its end: by `stop()`, or by the user. -/
inductive ProjectionEnd
  | stopped
  | revoked
  deriving DecidableEq

/-- A `MediaProjection` of Android's, with the service object that its callback belongs to. -/
structure MediaProjection where
  service : Nat
  registered : Bool
  ended : Option ProjectionEnd
  delivered : Bool
  deriving DecidableEq

def MediaProjection.stop (m : MediaProjection) : MediaProjection :=
  { m with ended := m.ended.or (some .stopped) }

def MediaProjection.revoke (m : MediaProjection) : MediaProjection :=
  { m with ended := m.ended.or (some .revoked) }

/-- Its `onStop` is still to come. -/
def MediaProjection.due (m : MediaProjection) : Bool :=
  m.registered && m.ended.isSome && !m.delivered

structure CompanionScreenEncoder where
  projection : Nat
  options : ProjectionOptions
  running : Bool
  deriving DecidableEq

/-- The fields of a service object; a `MediaProjection` is known by its number. -/
structure CompanionProjectionService where
  projection : Option Nat
  encoder : Option CompanionScreenEncoder
  currentSessionId : Option String
  deriving DecidableEq

def CompanionProjectionService.idle : CompanionProjectionService := ⟨none, none, none⟩

/-- What the service hands to `CompanionQuicRuntime`. -/
inductive ProjectionOutput
  | startVideoStream (options : ProjectionOptions)
  | stopVideoStream (sessionId : String)
  | streaming (options : ProjectionOptions)
  | stopped (sessionId reason : String)
  | failed (sessionId message : String)
  deriving DecidableEq

/-- `stop` of an encoder, as far as others see it: one that does not run has nothing to stop. -/
def CompanionScreenEncoder.stop (encoder : CompanionScreenEncoder) : List ProjectionOutput :=
  if encoder.running then [.stopVideoStream encoder.options.sessionId] else []

/-- Where `startProjection` throws, and with what message. -/
inductive ProjectionFault
  /-- There is no `MediaProjection`. -/
  | refused (message : String)
  /-- Its callback is not registered. -/
  | unregistered (message : String)
  | encoder (message : String)
  /-- The session streams already, but the event or the notification that says so fails. -/
  | unreported (message : String)
  deriving DecidableEq

/-- A start command: whether it has the user's consent, and where it will throw. -/
structure ProjectionStart where
  options : ProjectionOptions
  granted : Bool
  fault : Option ProjectionFault
  deriving DecidableEq

inductive ServiceAction
  | start (intent : ProjectionStart)
  | stop
  | other
  deriving DecidableEq

/-- The messages of the main looper, and the user's revocation of a projection. A `stopSelf` asks for
a destruction, which may come at any time. -/
inductive ProjectionEvent
  | command (action : ServiceAction)
  | destroy
  | revoke (projection : Nat)
  | onStop (projection : Nat)
  deriving DecidableEq

/-- The service objects there have been, the current one, and all that they share. -/
structure ProjectionPhone where
  services : Nat → CompanionProjectionService
  created : Nat
  current : Option Nat
  projections : List MediaProjection
  session : ProjectionSessionState
  outputs : List ProjectionOutput
  /-- The projections whose sessions have been set to `STREAMING`. -/
  streamed : List Nat

namespace ProjectionPhone

def initial : ProjectionPhone :=
  ⟨fun _ => .idle, 0, none, [], ⟨.idle, none, none⟩, [], []⟩

def setService (s : ProjectionPhone) (i : Nat) (service : CompanionProjectionService) :
    ProjectionPhone :=
  { s with services := Function.update s.services i service }

def output (s : ProjectionPhone) (outputs : List ProjectionOutput) : ProjectionPhone :=
  { s with outputs := s.outputs ++ outputs }

/-- The fields of a service object are cleared, and what they held is stopped. -/
def release (s : ProjectionPhone) (i : Nat) : ProjectionPhone :=
  let service := s.services i
  { s.setService i .idle with
    projections := service.projection.elim s.projections
      (fun p => s.projections.modify p MediaProjection.stop)
    outputs := s.outputs ++ service.encoder.elim [] CompanionScreenEncoder.stop }

def reportStopped (s : ProjectionPhone) : Option String → Option String → ProjectionPhone
  | some sessionId, some reason =>
    { s with session := ⟨.stopped, some sessionId, none⟩ }.output [.stopped sessionId reason]
  | _, _ => s

def stopProjection (s : ProjectionPhone) (i : Nat) (reason : Option String) : ProjectionPhone :=
  (s.release i).reportStopped (s.services i).currentSessionId reason

def reportFailure (s : ProjectionPhone) (sessionId message : String) : ProjectionPhone :=
  { s with session := ⟨.failed, some sessionId, some message⟩ }.output [.failed sessionId message]

/-- The `catch` of `startProjection`. -/
def startFailed (s : ProjectionPhone) (i : Nat) (sessionId message : String) : ProjectionPhone :=
  (s.reportFailure sessionId message).stopProjection i none

/-- `getMediaProjection`, and its callback. -/
def getMediaProjection (s : ProjectionPhone) (i : Nat) (registered : Bool) : ProjectionPhone :=
  { s with projections := s.projections ++ [⟨i, registered, none, false⟩] }

/-- The encoder is put in place and started. -/
def encode (s : ProjectionPhone) (i p : Nat) (options : ProjectionOptions) : ProjectionPhone :=
  s.setService i ⟨some p, some ⟨p, options, true⟩, some options.sessionId⟩

/-- The session is set to `STREAMING`. -/
def stream (s : ProjectionPhone) (p : Nat) (options : ProjectionOptions) : ProjectionPhone :=
  { s with
    session := ⟨.streaming, some options.sessionId, none⟩
    streamed := s.streamed ++ [p] }.output [.startVideoStream options]

def startProjection (s : ProjectionPhone) (i : Nat) (intent : ProjectionStart) : ProjectionPhone :=
  let options := intent.options
  let sessionId := options.sessionId
  if intent.granted = false then s.reportFailure sessionId "屏幕录制授权数据无效。"
  else
    let s := s.stopProjection i none
    let s := { s.setService i ⟨none, none, some sessionId⟩ with
      session := ⟨.starting, some sessionId, none⟩ }
    let p := s.projections.length
    match intent.fault with
    | some (.refused message) => s.startFailed i sessionId message
    | some (.unregistered message) => (s.getMediaProjection i false).startFailed i sessionId message
    | some (.encoder message) =>
      ((s.getMediaProjection i true).encode i p options).startFailed i sessionId message
    | some (.unreported message) =>
      (((s.getMediaProjection i true).encode i p options).stream p options).startFailed i sessionId
        message
    | none =>
      (((s.getMediaProjection i true).encode i p options).stream p options).output
        [.streaming options]

/-- The service object that a command goes to; it is created if there is none. -/
def serviceObject (s : ProjectionPhone) : ProjectionPhone × Nat :=
  match s.current with
  | some i => (s, i)
  | none =>
    ({ s.setService s.created .idle with created := s.created + 1, current := some s.created },
      s.created)

def onStartCommand (s : ProjectionPhone) (action : ServiceAction) : ProjectionPhone :=
  let (s, i) := s.serviceObject
  match action with
  | .start intent => s.startProjection i intent
  | .stop => s.stopProjection i (some "stopped")
  | .other => s

def step (s : ProjectionPhone) : ProjectionEvent → ProjectionPhone
  | .command action => s.onStartCommand action
  | .destroy =>
    match s.current with
    | none => s
    | some i => { s.stopProjection i (some "stopped") with current := none }
  | .revoke p => { s with projections := s.projections.modify p MediaProjection.revoke }
  | .onStop p =>
    match s.projections[p]? with
    | none => s
    | some m =>
      if m.due then
        { s with projections := s.projections.modify p ({ · with delivered := true }) }
          |>.stopProjection m.service (some "projectionRevoked")
      else s

/-- The projection and the encoder of a session that streams are in place. -/
def Streams (s : ProjectionPhone) (p : Nat) : Prop :=
  ∃ (i : Nat) (options : ProjectionOptions),
    s.services i = ⟨some p, some ⟨p, options, true⟩, some options.sessionId⟩

/-- A session that has reached `STREAMING` comes to its end in a step. -/
def Ends (s s' : ProjectionPhone) (p : Nat) : Prop :=
  p ∈ s'.streamed ∧ ¬s'.Streams p ∧ (s.Streams p ∨ p ∉ s.streamed)

/-- A stop command, the destruction of the service, a newer start, and the callback of the session's
own projection once the user has revoked it may end a session. -/
def MayEnd (s : ProjectionPhone) (p : Nat) : ProjectionEvent → Prop
  | .command .stop => True
  | .command (.start _) => p ∈ s.streamed
  | .command .other => False
  | .destroy => True
  | .revoke _ => False
  | .onStop q => q = p ∧ ∃ m, s.projections[p]? = some m ∧ m.ended = some .revoked

/-- Sessions end only by what may end them, and a callback leaves newer sessions as they are. -/
structure Isolated (s : ProjectionPhone) (e : ProjectionEvent) : Prop where
  ends : ∀ p, Ends s (s.step e) p → s.MayEnd p e
  newer : ∀ q p, e = .onStop q → q < p → s.Streams p →
    (s.step e).services = s.services ∧ (s.step e).session = s.session ∧
      (s.step e).projections[p]? = s.projections[p]?

/-- No callback is delivered to a service object that holds another projection, and no start throws
after it has set its session to `STREAMING`. -/
def Quiet (s : ProjectionPhone) : ProjectionEvent → Prop
  | .onStop q => ∀ m p, s.projections[q]? = some m → m.due = true →
      (s.services m.service).projection = some p → p = q
  | .command (.start intent) => intent.granted = true →
      ∀ message, intent.fault ≠ some (.unreported message)
  | _ => True

section

variable (s : ProjectionPhone)

theorem reportStopped_frame (sessionId reason : Option String) :
    (s.reportStopped sessionId reason).services = s.services ∧
      (s.reportStopped sessionId reason).current = s.current ∧
      (s.reportStopped sessionId reason).projections = s.projections ∧
      (s.reportStopped sessionId reason).streamed = s.streamed := by
  unfold reportStopped
  split <;> exact ⟨rfl, rfl, rfl, rfl⟩

@[simp] theorem services_stopProjection (i : Nat) (reason : Option String) :
    (s.stopProjection i reason).services = Function.update s.services i .idle :=
  ((s.release i).reportStopped_frame _ reason).1

@[simp] theorem current_stopProjection (i : Nat) (reason : Option String) :
    (s.stopProjection i reason).current = s.current :=
  ((s.release i).reportStopped_frame _ reason).2.1

theorem projections_stopProjection (i : Nat) (reason : Option String) :
    (s.stopProjection i reason).projections =
      ((s.services i).projection.elim s.projections fun p =>
        s.projections.modify p MediaProjection.stop) :=
  ((s.release i).reportStopped_frame _ reason).2.2.1

@[simp] theorem streamed_stopProjection (i : Nat) (reason : Option String) :
    (s.stopProjection i reason).streamed = s.streamed :=
  ((s.release i).reportStopped_frame _ reason).2.2.2

@[simp] theorem length_stopProjection (i : Nat) (reason : Option String) :
    (s.stopProjection i reason).projections.length = s.projections.length := by
  rw [projections_stopProjection]
  cases (s.services i).projection with
  | none => rfl
  | some p => exact List.length_modify _ _ _

/-- A service object that holds nothing has nothing to stop. -/
theorem stopProjection_idle {i : Nat} (h : s.services i = .idle) (reason : Option String) :
    (s.stopProjection i reason).services = s.services ∧
      (s.stopProjection i reason).session = s.session ∧
      (s.stopProjection i reason).projections = s.projections := by
  refine ⟨?_, ?_, ?_⟩
  · rw [services_stopProjection, ← h, Function.update_eq_self]
  · rw [stopProjection, h]
    rfl
  · rw [projections_stopProjection, h]
    rfl

@[simp] theorem services_startFailed (i : Nat) (sessionId message : String) :
    (s.startFailed i sessionId message).services = Function.update s.services i .idle :=
  services_stopProjection _ i none

@[simp] theorem streamed_startFailed (i : Nat) (sessionId message : String) :
    (s.startFailed i sessionId message).streamed = s.streamed :=
  streamed_stopProjection _ i none

@[simp] theorem current_startFailed (i : Nat) (sessionId message : String) :
    (s.startFailed i sessionId message).current = s.current :=
  current_stopProjection _ i none

@[simp] theorem length_startFailed (i : Nat) (sessionId message : String) :
    (s.startFailed i sessionId message).projections.length = s.projections.length :=
  length_stopProjection _ i none

/-- The fault comes when the session has been set to `STREAMING`. -/
def reported : ProjectionFault → Bool
  | .unreported _ => true
  | _ => false

/-- A start that throws leaves its service object with nothing. -/
theorem startProjection_fault {i : Nat} {intent : ProjectionStart} (granted : intent.granted = true)
    {fault : ProjectionFault} (hfault : intent.fault = some fault) :
    (s.startProjection i intent).services = Function.update s.services i .idle ∧
      (s.startProjection i intent).current = s.current ∧
      (s.startProjection i intent).streamed =
        s.streamed ++ (if reported fault then [s.projections.length] else []) ∧
      s.projections.length + (if reported fault then 1 else 0) ≤
        (s.startProjection i intent).projections.length := by
  unfold startProjection
  rw [if_neg (by simp [granted]), hfault]
  cases fault <;>
    simp [getMediaProjection, encode, stream, setService, output, reported, Function.update_idem]

/-- A start that goes well has the service object stream a new projection. -/
theorem startProjection_ok {i : Nat} {intent : ProjectionStart} (granted : intent.granted = true)
    (hfault : intent.fault = none) :
    (s.startProjection i intent).services = Function.update s.services i
        ⟨some s.projections.length, some ⟨s.projections.length, intent.options, true⟩,
          some intent.options.sessionId⟩ ∧
      (s.startProjection i intent).current = s.current ∧
      (s.startProjection i intent).streamed = s.streamed ++ [s.projections.length] ∧
      (s.startProjection i intent).projections.length = s.projections.length + 1 ∧
      (s.startProjection i intent).projections[s.projections.length]? =
        some ⟨i, true, none, false⟩ := by
  unfold startProjection
  rw [if_neg (by simp [granted]), hfault]
  simp [getMediaProjection, encode, stream, setService, output, Function.update_idem]

theorem startProjection_denied {i : Nat} {intent : ProjectionStart}
    (denied : intent.granted = false) : s.startProjection i intent =
      s.reportFailure intent.options.sessionId "屏幕录制授权数据无效。" := by
  unfold startProjection
  rw [if_pos denied]

end

/-- Only the current service object holds anything: all of a session that streams, whose projection
nobody has stopped. -/
structure Kept (s : ProjectionPhone) : Prop where
  others : ∀ i, s.current ≠ some i → s.services i = .idle
  whole : ∀ i, s.services i = .idle ∨ ∃ (p : Nat) (options : ProjectionOptions),
    s.services i = ⟨some p, some ⟨p, options, true⟩, some options.sessionId⟩ ∧ p ∈ s.streamed ∧
      ∃ m, s.projections[p]? = some m ∧ m.service = i ∧ m.ended ≠ some .stopped
  streamed : ∀ p ∈ s.streamed, p < s.projections.length

theorem kept_initial : Kept initial :=
  ⟨fun _ _ => rfl, fun _ => Or.inl rfl, fun _ hp => absurd hp (List.not_mem_nil)⟩

theorem kept_of_idle {s : ProjectionPhone} (idle : ∀ i, s.services i = .idle)
    (streamed : ∀ p ∈ s.streamed, p < s.projections.length) : Kept s :=
  ⟨fun i _ => idle i, fun i => Or.inl (idle i), streamed⟩

namespace Kept

variable {s : ProjectionPhone}

/-- What holds a projection streams it. -/
theorem streams (h : Kept s) {i p : Nat} (hp : (s.services i).projection = some p) :
    ∃ options : ProjectionOptions,
      s.services i = ⟨some p, some ⟨p, options, true⟩, some options.sessionId⟩ ∧ p ∈ s.streamed ∧
        ∃ m, s.projections[p]? = some m ∧ m.service = i ∧ m.ended ≠ some .stopped := by
  rcases h.whole i with hidle | ⟨p', options, hservice, hrest⟩
  · rw [hidle] at hp
    cases hp
  · rw [hservice] at hp
    cases hp
    exact ⟨options, hservice, hrest⟩

/-- Without the current service object there is nothing left. -/
theorem idle_update (h : Kept s) {i : Nat} (hi : s.current = some i ∨ s.services i ≠ .idle)
    (j : Nat) : Function.update s.services i CompanionProjectionService.idle j = .idle := by
  by_cases hj : j = i
  · rw [hj, Function.update_self]
  · rw [Function.update_of_ne hj]
    refine h.others j ?_
    intro hcurrent
    rcases hi with hi | hi
    · exact hj (Option.some.inj (hcurrent.symm.trans hi))
    · refine hi (h.others i ?_)
      intro hcurrent'
      exact hj (Option.some.inj (hcurrent.symm.trans hcurrent'))

theorem serviceObject (h : Kept s) :
    Kept s.serviceObject.1 ∧ s.serviceObject.1.current = some s.serviceObject.2 ∧
      s.serviceObject.1.services = s.services ∧ s.serviceObject.1.streamed = s.streamed ∧
      s.serviceObject.1.projections = s.projections := by
  unfold ProjectionPhone.serviceObject
  cases hcurrent : s.current with
  | some i => exact ⟨h, hcurrent, rfl, rfl, rfl⟩
  | none =>
    have idle (i : Nat) : s.services i = .idle := h.others i (by simp [hcurrent])
    have same : (s.setService s.created .idle).services = s.services := by
      show Function.update s.services s.created .idle = s.services
      rw [← idle s.created, Function.update_eq_self]
    refine ⟨kept_of_idle ?_ h.streamed, rfl, same, rfl, rfl⟩
    intro i
    exact (congrFun same i).trans (idle i)

theorem stopProjection (h : Kept s) {i : Nat} (hi : s.current = some i ∨ s.services i ≠ .idle)
    (reason : Option String) : Kept (s.stopProjection i reason) := by
  refine kept_of_idle ?_ ?_
  · intro j
    rw [services_stopProjection]
    exact h.idle_update hi j
  · intro p hp
    rw [streamed_stopProjection] at hp
    rw [length_stopProjection]
    exact h.streamed p hp

theorem startProjection (h : Kept s) {i : Nat} (hi : s.current = some i)
    (intent : ProjectionStart) : Kept (s.startProjection i intent) := by
  cases hgranted : intent.granted with
  | false =>
    rw [startProjection_denied s hgranted]
    exact ⟨h.others, h.whole, h.streamed⟩
  | true =>
    cases hfault : intent.fault with
    | none =>
      obtain ⟨hservices, hcurrent, hstreamed, hlength, hnew⟩ :=
        startProjection_ok s (i := i) hgranted hfault
      refine ⟨?_, ?_, ?_⟩
      · intro j hj
        have other : j ≠ i := by
          rintro rfl
          exact hj (hcurrent.trans hi)
        rw [hservices, Function.update_of_ne other]
        exact h.others j (hcurrent ▸ hj)
      · intro j
        by_cases hj : j = i
        · refine Or.inr ⟨s.projections.length, intent.options, ?_, ?_, _, hnew, hj.symm, by simp⟩
          · rw [hservices, hj, Function.update_self]
          · rw [hstreamed]
            exact List.mem_append_right _ (List.mem_singleton_self _)
        · refine Or.inl ?_
          rw [hservices, Function.update_of_ne hj]
          exact h.others j (by simp [hi, Ne.symm hj])
      · intro p hp
        rw [hstreamed, List.mem_append, List.mem_singleton] at hp
        rw [hlength]
        rcases hp with hp | rfl
        · exact Nat.lt_succ_of_lt (h.streamed p hp)
        · exact Nat.lt_succ_self _
    | some fault =>
      obtain ⟨hservices, -, hstreamed, hlength⟩ := startProjection_fault s (i := i) hgranted hfault
      refine kept_of_idle ?_ ?_
      · intro j
        rw [hservices]
        exact h.idle_update (Or.inl hi) j
      · intro p hp
        rw [hstreamed, List.mem_append] at hp
        rcases hp with hp | hp
        · exact lt_of_lt_of_le (h.streamed p hp) (le_trans (Nat.le_add_right _ _) hlength)
        · split_ifs at hp hlength
          · rw [List.mem_singleton.mp hp]
            exact hlength
          · exact absurd hp List.not_mem_nil

end Kept

section Steps

variable {s : ProjectionPhone}

theorem step_onStop {p : Nat} {m : MediaProjection} (hm : s.projections[p]? = some m)
    (due : m.due = true) : s.step (.onStop p) =
      ({ s with projections := s.projections.modify p ({ · with delivered := true }) }).stopProjection
        m.service (some "projectionRevoked") := by
  simp only [step, hm, due, if_true]

/-- A callback that is not due is not delivered. -/
theorem onStop_cases (s : ProjectionPhone) (p : Nat) :
    s.step (.onStop p) = s ∨ ∃ m, s.projections[p]? = some m ∧ m.due = true := by
  cases hm : s.projections[p]? with
  | none => exact Or.inl (by simp only [step, hm])
  | some m =>
    cases hdue : m.due with
    | false => exact Or.inl (by simp only [step, hm, hdue]; rfl)
    | true => exact Or.inr ⟨m, rfl, hdue⟩

/-- Notes on a projection that say nothing of a stop leave what is kept. -/
theorem Kept.modify (h : Kept s) (q : Nat) {f : MediaProjection → MediaProjection}
    (hf : ∀ m, (f m).service = m.service ∧ (m.ended ≠ some .stopped → (f m).ended ≠ some .stopped)) :
    Kept { s with projections := s.projections.modify q f } := by
  refine ⟨h.others, ?_, ?_⟩
  · intro i
    rcases h.whole i with hidle | ⟨p, options, hservice, hp, m, hm, howner, hended⟩
    · exact Or.inl hidle
    · by_cases hq : q = p
      · refine Or.inr ⟨p, options, hservice, hp, f m, ?_, (hf m).1.trans howner, (hf m).2 hended⟩
        show (s.projections.modify q f)[p]? = some (f m)
        rw [hq, List.getElem?_modify_eq, hm]
        rfl
      · refine Or.inr ⟨p, options, hservice, hp, m, ?_, howner, hended⟩
        show (s.projections.modify q f)[p]? = some m
        rw [List.getElem?_modify_ne _ _ hq, hm]
  · intro p hp
    show p < (s.projections.modify q f).length
    rw [List.length_modify]
    exact h.streamed p hp

theorem revoke_not_stopped {m : MediaProjection} (h : m.ended ≠ some .stopped) :
    m.revoke.ended ≠ some .stopped := by
  unfold MediaProjection.revoke
  cases hended : m.ended with
  | none => simp
  | some e =>
    rw [hended] at h
    exact h

theorem Kept.step (h : Kept s) (e : ProjectionEvent) : Kept (s.step e) := by
  cases e with
  | command action =>
    obtain ⟨hkept, hcurrent, -⟩ := h.serviceObject
    cases action with
    | start intent => exact hkept.startProjection hcurrent intent
    | stop => exact hkept.stopProjection (Or.inl hcurrent) _
    | other => exact hkept
  | destroy =>
    show Kept (match s.current with
      | none => s
      | some i => { s.stopProjection i (some "stopped") with current := none })
    cases hcurrent : s.current with
    | none => exact h
    | some i =>
      have stopped := h.stopProjection (Or.inl hcurrent) (some "stopped")
      refine kept_of_idle ?_ stopped.streamed
      intro j
      show (s.stopProjection i (some "stopped")).services j = .idle
      rw [services_stopProjection]
      exact h.idle_update (Or.inl hcurrent) j
  | revoke p => exact h.modify p (fun m => ⟨rfl, revoke_not_stopped⟩)
  | onStop p =>
    rcases onStop_cases s p with hsame | ⟨m, hm, hdue⟩
    · rw [hsame]
      exact h
    · rw [step_onStop hm hdue]
      have noted := h.modify p (f := ({ · with delivered := true })) (fun m => ⟨rfl, id⟩)
      by_cases hidle : s.services m.service = .idle
      · obtain ⟨hservices, -, hprojections⟩ := stopProjection_idle
          { s with projections := s.projections.modify p ({ · with delivered := true }) } hidle
          (some "projectionRevoked")
        refine ⟨?_, ?_, ?_⟩
        · rw [current_stopProjection, hservices]
          exact noted.others
        · rw [streamed_stopProjection, hservices, hprojections]
          exact noted.whole
        · rw [streamed_stopProjection, hprojections]
          exact noted.streamed
      · exact noted.stopProjection (Or.inr hidle) _

/-- Of two states with the same service objects the same sessions stream. -/
theorem streams_congr {s s' : ProjectionPhone} (h : s'.services = s.services) (p : Nat) :
    s'.Streams p ↔ s.Streams p := by rw [Streams, Streams, h]

theorem not_streams_of_idle {s : ProjectionPhone} (idle : ∀ i, s.services i = .idle) (p : Nat) :
    ¬s.Streams p := by
  rintro ⟨i, options, hservice⟩
  rw [idle i] at hservice
  cases hservice

/-- Nothing ends where the service objects and the sessions that streamed are the same. -/
theorem not_ends {s s' : ProjectionPhone} (hservices : s'.services = s.services)
    (hstreamed : s'.streamed = s.streamed) (p : Nat) : ¬Ends s s' p := by
  rintro ⟨hp, hstops, hbefore⟩
  rw [streams_congr hservices] at hstops
  rw [hstreamed] at hp
  rcases hbefore with hstreams | hnew
  · exact hstops hstreams
  · exact hnew hp

/-- What ends in a step that adds no session has streamed before it. -/
theorem Ends.streams {s s' : ProjectionPhone} {p : Nat} (h : Ends s s' p)
    (hstreamed : s'.streamed = s.streamed) : s.Streams p :=
  h.2.2.resolve_right (not_not.mpr (hstreamed ▸ h.1))

/-- A start ends older sessions alone, unless it throws once its own session streams. -/
theorem Kept.start_ends (h : Kept s) {intent : ProjectionStart}
    (quiet : s.Quiet (.command (.start intent))) {p : Nat}
    (hp : Ends s (s.step (.command (.start intent))) p) : p ∈ s.streamed := by
  obtain ⟨hkept, hcurrent, hservices, hstreamed, hprojections⟩ := h.serviceObject
  obtain ⟨hstream, hstops, -⟩ := hp
  revert hstream hstops
  show p ∈ (s.serviceObject.1.startProjection s.serviceObject.2 intent).streamed →
    ¬(s.serviceObject.1.startProjection s.serviceObject.2 intent).Streams p → p ∈ s.streamed
  intro hstream hstops
  cases hgranted : intent.granted with
  | false =>
    rw [startProjection_denied _ hgranted] at hstream
    exact hstreamed ▸ hstream
  | true =>
    cases hfault : intent.fault with
    | none =>
      obtain ⟨hafter, -, hadded, -⟩ := startProjection_ok s.serviceObject.1
        (i := s.serviceObject.2) hgranted hfault
      rw [hadded, List.mem_append, List.mem_singleton, hstreamed] at hstream
      rcases hstream with hold | rfl
      · exact hold
      · refine absurd ⟨s.serviceObject.2, intent.options, ?_⟩ hstops
        rw [hafter, Function.update_self]
    | some fault =>
      obtain ⟨-, -, hadded, -⟩ := startProjection_fault s.serviceObject.1
        (i := s.serviceObject.2) hgranted hfault
      have early : reported fault = false := by
        cases fault with
        | unreported message => exact absurd hfault (quiet hgranted message)
        | refused message => rfl
        | unregistered message => rfl
        | encoder message => rfl
      rw [hadded, early, if_neg (by simp), List.append_nil, hstreamed] at hstream
      exact hstream

/-- A callback that is due, and finds its own projection at most, ends that one alone. -/
theorem Kept.onStop_isolated (h : Kept s) {q : Nat} (quiet : s.Quiet (.onStop q)) :
    Isolated s (.onStop q) := by
  rcases onStop_cases s q with hsame | ⟨m, hm, hdue⟩
  · refine ⟨?_, ?_⟩
    · intro p hp
      rw [hsame] at hp
      exact absurd hp (not_ends rfl rfl p)
    · intro q' p he hlt hp
      rw [hsame]
      exact ⟨rfl, rfl, rfl⟩
  · have hstep := step_onStop hm hdue
    have hservices : (s.step (.onStop q)).services =
        Function.update s.services m.service .idle := by
      rw [hstep, services_stopProjection]
    have hstreamed : (s.step (.onStop q)).streamed = s.streamed := by
      rw [hstep, streamed_stopProjection]
    have own (p : Nat) (hp : s.Streams p) (options : ProjectionOptions)
        (hservice : s.services m.service =
          ⟨some p, some ⟨p, options, true⟩, some options.sessionId⟩) : q = p :=
      (quiet m p hm hdue (by rw [hservice])).symm
    refine ⟨?_, ?_⟩
    · intro p hp
      obtain ⟨i, options, hservice⟩ := hp.streams hstreamed
      have here : i = m.service := by
        by_contra hi
        refine hp.2.1 ⟨i, options, ?_⟩
        rw [hservices, Function.update_of_ne hi, hservice]
      subst here
      have hq := own p ⟨_, options, hservice⟩ options hservice
      subst hq
      obtain ⟨-, -, -, m', hm', -, hended⟩ := h.streams (i := m.service) (p := q) (by rw [hservice])
      rw [hm] at hm'
      cases hm'
      refine ⟨rfl, m, hm, ?_⟩
      cases hend : m.ended with
      | none => simp [MediaProjection.due, hend] at hdue
      | some cause =>
        cases cause with
        | stopped => exact absurd hend hended
        | revoked => rfl
    · rintro q' p ⟨⟩ hlt ⟨i, options, hservice⟩
      -- the object of the older callback holds nothing: what it held would be newer itself
      have idle : s.services m.service = .idle := by
        by_contra hbusy
        have here : i = m.service := by
          by_contra hi
          have moved := h.idle_update (Or.inr hbusy) i
          rw [Function.update_of_ne hi, hservice] at moved
          cases moved
        subst here
        have hq := own p ⟨_, options, hservice⟩ options hservice
        omega
      obtain ⟨hsame, hsession, hprojections⟩ := stopProjection_idle
        { s with projections := s.projections.modify q ({ · with delivered := true }) } idle
        (some "projectionRevoked")
      rw [hstep]
      refine ⟨hsame, hsession, ?_⟩
      rw [hprojections]
      exact List.getElem?_modify_ne _ _ (ne_of_lt hlt)

/-- A start that throws once its session streams ends that session itself. -/
theorem Kept.start_quiet (h : Kept s) {intent : ProjectionStart}
    (isolated : Isolated s (.command (.start intent))) : s.Quiet (.command (.start intent)) := by
  intro hgranted message hfault
  obtain ⟨hkept, hcurrent, hservices, hstreamed, hprojections⟩ := h.serviceObject
  obtain ⟨hafter, -, hadded, -⟩ := startProjection_fault s.serviceObject.1
    (i := s.serviceObject.2) hgranted hfault
  rw [hstreamed, hprojections] at hadded
  have fresh : s.projections.length ∉ s.streamed :=
    fun hmem => lt_irrefl _ (h.streamed _ hmem)
  refine fresh (isolated.ends s.projections.length ⟨?_, ?_, Or.inr fresh⟩)
  · show s.projections.length ∈
      (s.serviceObject.1.startProjection s.serviceObject.2 intent).streamed
    rw [hadded]
    simp [reported]
  · refine not_streams_of_idle ?_ _
    intro j
    show (s.serviceObject.1.startProjection s.serviceObject.2 intent).services j = .idle
    rw [hafter]
    exact hkept.idle_update (Or.inl hcurrent) j

/-- A callback ends what it finds in its service object. -/
theorem Kept.onStop_quiet (h : Kept s) {q : Nat} (isolated : Isolated s (.onStop q)) :
    s.Quiet (.onStop q) := by
  intro m p hm hdue hp
  obtain ⟨options, hservice, hstreamed, -⟩ := h.streams hp
  have ends : Ends s (s.step (.onStop q)) p := by
    rw [step_onStop hm hdue]
    refine ⟨?_, not_streams_of_idle ?_ p, Or.inl ⟨_, options, hservice⟩⟩
    · rw [streamed_stopProjection]
      exact hstreamed
    · intro j
      rw [services_stopProjection]
      refine h.idle_update (Or.inr ?_) j
      rw [hservice]
      rintro ⟨⟩
  exact (isolated.ends p ends).1.symm

theorem Kept.isolated_iff (h : Kept s) (e : ProjectionEvent) : Isolated s e ↔ Quiet s e := by
  constructor
  · intro isolated
    cases e with
    | command action =>
      cases action with
      | start intent => exact h.start_quiet isolated
      | stop => trivial
      | other => trivial
    | destroy => trivial
    | revoke p => trivial
    | onStop q => exact h.onStop_quiet isolated
  · intro quiet
    cases e with
    | onStop q => exact h.onStop_isolated quiet
    | command action =>
      refine ⟨?_, fun q p he => by cases he⟩
      intro p hp
      cases action with
      | start intent => exact h.start_ends quiet hp
      | stop => trivial
      | other =>
        obtain ⟨-, -, hservices, hstreamed, -⟩ := h.serviceObject
        exact not_ends hservices hstreamed p hp
    | destroy => exact ⟨fun p hp => trivial, fun q p he => by cases he⟩
    | revoke q => exact ⟨fun p hp => not_ends rfl rfl p hp, fun q p he => by cases he⟩

end Steps

end ProjectionPhone

open ProjectionPhone in
/-- In every run of the service, its sessions are isolated from each other exactly when no callback
finds another projection in its service object, and no start throws once its session streams. -/
theorem projection_sessions_isolated_iff (events : List ProjectionEvent) :
    Along step Isolated initial events ↔ Along step Quiet initial events :=
  along_congr Kept (fun _ e h _ => h.step e) (fun _ e h => h.isolated_iff e) kept_initial

section

def projectionOptions (sessionId : String) : ProjectionOptions := ⟨sessionId, 720, 1280, 4000000, 60⟩

/-- A second session replaces the first, whose callback is delivered then. -/
def replacedSession : List ProjectionEvent :=
  [.command (.start ⟨projectionOptions "first", true, none⟩),
    .command (.start ⟨projectionOptions "second", true, none⟩), .onStop 0]

open ProjectionPhone in
/-- The callback of the replaced session's projection ends the session that has replaced it. -/
theorem replaced_session_ends_newer : ¬Along step Isolated initial replacedSession := by
  intro h
  have isolated : Along step Isolated initial (replacedSession.take 2 ++ .onStop 0 :: []) := h
  have second := isolated.at.ends 1
  have ends : Ends (run step initial (replacedSession.take 2))
      (step (run step initial (replacedSession.take 2)) (.onStop 0)) 1 := by
    refine ⟨by decide, ?_, Or.inl ⟨0, projectionOptions "second", by decide⟩⟩
    have kept : Kept (run step initial replacedSession) :=
      run_invariant_of_step Kept (fun _ e hs => hs.step e) replacedSession kept_initial
    have current : (run step initial replacedSession).current = some 0 := by decide
    refine not_streams_of_idle ?_ 1
    intro i
    by_cases hi : i = 0
    · rw [hi]
      decide
    · exact kept.others i (by simp [current, Ne.symm hi])
  exact absurd (second ends).1 (by decide)

end

end AdbControl.Companion
