import AdbControl.Companion.ConnectionService

namespace AdbControl.Companion

open Framework

/-- Within the loop of a task, which holds `connectionInProgress`. -/
def ConnectPlace.holds : ConnectPlace → Bool
  | idle | rechecking | starting => false
  | _ => true

@[simp, grind =] theorem ConnectPlace.ofSlot_holds (slot : Option PendingConnectionConfig) :
    (ofSlot slot).holds = true := by
  cases slot <;> rfl

/-- With an attempt that has no transport, whose failure is not posted yet. -/
def ConnectPlace.attempts : ConnectPlace → Bool
  | closing _ | detaching _ | dialing _ | failed _ | posting _ => true
  | _ => false

/-- With an attempt whose transport has been set. -/
def ConnectPlace.attached : ConnectPlace → Option ConnectionTransport
  | greeting transport | launching transport => some transport
  | _ => none

/-- With an attempt that has not replaced the transport. -/
def ConnectPlace.dials : ConnectPlace → Option PendingConnectionConfig
  | closing config | detaching config | dialing config => some config
  | _ => none

/-- With an attempt that has not cleared the transport of before. -/
def ConnectPlace.replaces : ConnectPlace → Bool
  | closing _ | detaching _ => true
  | _ => false

theorem ConnectPlace.ofSlot_aside (slot : Option PendingConnectionConfig) :
    (ofSlot slot).attempts = false ∧ (ofSlot slot).attached = none := by
  cases slot <;> exact ⟨rfl, rfl⟩

theorem ConnectPlace.ofSlot_dials (slot : Option PendingConnectionConfig) :
    (ofSlot slot).dials = none := by
  cases slot <;> rfl

/-- With a lost connection or a failure, for which a reconnect is to be scheduled. -/
def MainPlace.recovers : MainPlace → Bool
  | idle | starting => false
  | _ => true

namespace CompanionService

variable {phone : CompanionPhone} {s : CompanionService}

theorem startPending_eq (s : CompanionService) : ∃ busy tasks, s.startPendingConnectionIfIdle =
    { s with connectionInProgress := busy, tasks := tasks } := by
  unfold startPendingConnectionIfIdle
  split_ifs
  · exact ⟨s.connectionInProgress, s.tasks, rfl⟩
  · exact ⟨true, s.tasks + 1, rfl⟩

/-- What a step can do: a property of the state holds after it if it holds after each of these. -/
theorem step_rule (P : CompanionService → Prop) (i : ServiceStep) (same : P s)
    (configure : ∀ config, s.main = .idle →
      P ({ s with saved := .save config, reconnectAttempts := 0, tried := false }.connectWithRetry
        config))
    (restart : ∀ config, s.main = .idle → s.saved.config phone = some config →
      P (s.connectWithRetry config))
    (fires : ∀ timer ∈ s.timers, s.main = .idle →
      P ({ s with timers := s.timers.erase timer, reconnectRunnable := none }.connectWithRetry
        timer.config))
    (failed : ∀ config posted, s.main = .idle → s.posted = .failed config :: posted →
      P { s with posted := posted, main := .scheduling config })
    (lost : ∀ loop posted, s.main = .idle → s.posted = .lost loop :: posted →
      s.isCurrent loop = true → P { s with posted := posted, main := .closing })
    (stale : ∀ loop posted, s.posted = .lost loop :: posted → s.isCurrent loop = false →
      P { s with posted := posted })
    (main : i = .main → P (s.mainStep phone))
    (task : s.executor = .idle → 0 < s.tasks →
      P { s with tasks := s.tasks - 1, executor := .reading })
    (executor : ∀ ok, i = .executor ok → P (s.executorStep phone ok))
    (throws : ∀ loop loops, s.loops = loop :: loops →
      P { s with loops := loops, posted := s.posted ++ [.lost loop] })
    (ends : ∀ loop loops, s.loops = loop :: loops → s.isCurrent loop = false →
      P { s with loops := loops }) :
    P (s.step phone i) := by
  cases i with
  | onStartCommand intent =>
    simp only [step, onStartCommand]
    split_ifs with hidle haction
    · cases phone.configured intent with
      | none => exact same
      | some config => exact configure config hidle
    · cases hsaved : s.saved.config phone with
      | none => exact same
      | some config => exact restart config hidle hsaved
    · exact same
  | message =>
    simp only [step, handleMessage]
    split_ifs with hidle
    · split
      · exact same
      · next config posted hposted => exact failed config posted hidle hposted
      · next loop posted hposted =>
        split_ifs with hcurrent
        · exact lost loop posted hidle hposted hcurrent
        · exact stale loop posted hposted (by simpa using hcurrent)
    · exact same
  | timer id =>
    simp only [step, timerFires]
    split_ifs with hidle
    · split
      · next timer hfind => exact fires timer (List.mem_of_find?_eq_some hfind) hidle
      · exact same
    · exact same
  | main => exact main rfl
  | task =>
    simp only [step, takeTask]
    split_ifs with htask
    · exact task htask.1 htask.2
    · exact same
  | executor ok => exact executor ok rfl
  | loopThrows =>
    simp only [step]
    split
    · exact same
    · next loop loops hloops => exact throws loop loops hloops
  | loopEnds =>
    simp only [step]
    split
    · exact same
    · next loop loops hloops =>
      split_ifs with hcurrent
      · exact same
      · exact ends loop loops hloops (by simpa using hcurrent)

/-- What is in the slot will be read: a task is queued or runs, or is about to be queued. -/
structure Awake (s : CompanionService) : Prop where
  held : s.connectionInProgress = true → 0 < s.tasks ∨ s.executor.holds = true
  wakes : s.pendingConnectionConfig ≠ none →
    s.main = .starting ∨ 0 < s.tasks ∨ s.executor ≠ .idle

theorem awake_onCreate (phone : CompanionPhone) (prefs : ConnectionPreferences) :
    Awake (onCreate phone prefs) :=
  ⟨by simp [onCreate], by simp [onCreate]⟩

theorem Awake.startPending (h : Awake s) :
    0 < s.startPendingConnectionIfIdle.tasks ∨ s.executor.holds = true := by
  unfold startPendingConnectionIfIdle
  split_ifs with hbusy
  · exact h.held hbusy
  · exact Or.inl (Nat.succ_pos _)

theorem Awake.mainStep (h : Awake s) : Awake (s.mainStep phone) := by
  unfold CompanionService.mainStep
  cases hm : s.main with
  | starting =>
    have hstart := h.startPending
    unfold startPendingConnectionIfIdle at hstart ⊢
    grind [Awake, ConnectPlace.holds]
  | _ => grind [Awake]

theorem Awake.executorStep (h : Awake s) (ok : Bool) : Awake (s.executorStep phone ok) := by
  have busy : s.executor.holds = true → s.executor ≠ .idle := by
    intro hholds hidle
    simp [hidle, ConnectPlace.holds] at hholds
  unfold CompanionService.executorStep
  cases he : s.executor with
  | reading =>
    cases hp : s.pendingConnectionConfig <;> grind [Awake, ConnectPlace.holds, ConnectPlace.ofSlot]
  | starting =>
    have hstart := h.startPending
    unfold startPendingConnectionIfIdle at hstart ⊢
    grind [Awake, ConnectPlace.holds]
  | _ => grind [Awake, ConnectPlace.holds]

theorem Awake.step (h : Awake s) (i : ServiceStep) : Awake (s.step phone i) := by
  apply step_rule Awake i h
  case configure => exact fun _ _ => ⟨h.held, fun _ => Or.inl rfl⟩
  case restart => exact fun _ _ _ => ⟨h.held, fun _ => Or.inl rfl⟩
  case fires => exact fun _ _ _ => ⟨h.held, fun _ => Or.inl rfl⟩
  case failed =>
    intro config posted hidle _
    exact ⟨h.held, fun hp => Or.inr (by simpa [hidle] using h.wakes hp)⟩
  case lost =>
    intro loop posted hidle _ _
    exact ⟨h.held, fun hp => Or.inr (by simpa [hidle] using h.wakes hp)⟩
  case stale => exact fun _ _ _ _ => ⟨h.held, h.wakes⟩
  case main => exact fun _ => h.mainStep
  case task => exact fun _ _ => ⟨fun _ => Or.inr rfl, fun _ => Or.inr (Or.inr (by simp))⟩
  case executor => exact fun ok _ => h.executorStep ok
  case throws => exact fun _ _ _ => ⟨h.held, h.wakes⟩
  case ends => exact fun _ _ _ _ => ⟨h.held, h.wakes⟩

theorem Awake.settled (h : Awake s) (hs : s.Settled) : s.pendingConnectionConfig = none := by
  obtain ⟨hmain, hexecutor, htasks, -⟩ := hs
  by_contra hpending
  rcases h.wakes hpending with hw | hw | hw
  · simp [hmain] at hw
  · omega
  · exact hw hexecutor

/-- What the service waits for, or is at, or has done; or it rests. -/
inductive Underway (s : CompanionService) : Prop
  | rests (h : s.resting = true)
  | pends (h : s.pendingConnectionConfig ≠ none)
  | attempts (h : s.executor.attempts = true)
  | attached {transport : ConnectionTransport} (h : s.executor.attached = some transport)
    (set : s.transport = some transport)
  | fails {config : PendingConnectionConfig} (h : .failed config ∈ s.posted)
  | loses {loop : ReceiveLoop} (h : .lost loop ∈ s.posted) (current : s.isCurrent loop = true)
  | recovers (h : s.main.recovers = true)
  | waits (h : s.timers ≠ [])
  | connected (h : s.Connected)

/-- The threads move, and what the service waits for stays. -/
theorem Underway.moves (h : Underway s) (main : MainPlace) (executor : ConnectPlace) (busy : Bool)
    (tasks attempts : Nat) (hmain : s.main.recovers = main.recovers)
    (hattempts : s.executor.attempts = executor.attempts)
    (hattached : s.executor.attached = executor.attached) :
    Underway { s with
      main := main
      executor := executor
      connectionInProgress := busy
      tasks := tasks
      reconnectAttempts := attempts } := by
  cases h with
  | rests h => exact .rests h
  | pends h => exact .pends h
  | attempts h => exact .attempts (hattempts ▸ h)
  | attached h set => exact .attached (hattached ▸ h) set
  | fails h => exact .fails h
  | loses h current => exact .loses h current
  | recovers h => exact .recovers (hmain ▸ h)
  | waits h => exact .waits h
  | connected h => exact .connected h

/-- A message is handled that would have changed nothing. -/
theorem Underway.skips {loop : ReceiveLoop} {posted : List MainMessage} (h : Underway s)
    (hposted : s.posted = .lost loop :: posted) (hstale : s.isCurrent loop = false) :
    Underway { s with posted := posted } := by
  cases h with
  | rests h => exact .rests h
  | pends h => exact .pends h
  | attempts h => exact .attempts h
  | attached h set => exact .attached h set
  | fails h => exact .fails (by simpa [hposted] using h)
  | @loses other h current =>
    have hne : other ≠ loop := by
      rintro rfl
      simp [current] at hstale
    exact .loses (by simpa [hposted, hne] using h) current
  | recovers h => exact .recovers h
  | waits h => exact .waits h
  | connected h => exact .connected h

/-- The running receive loop ends, and is known to have failed where it was current. -/
theorem Underway.ends {loop : ReceiveLoop} {loops : List ReceiveLoop} {posted : List MainMessage}
    (h : Underway s) (hloops : s.loops = loop :: loops) (kept : ∀ m ∈ s.posted, m ∈ posted)
    (known : s.isCurrent loop = true → .lost loop ∈ posted) :
    Underway { s with loops := loops, posted := posted } := by
  cases h with
  | rests h => exact .rests h
  | pends h => exact .pends h
  | attempts h => exact .attempts h
  | attached h set => exact .attached h set
  | fails h => exact .fails (kept _ h)
  | loses h current => exact .loses (kept _ h) current
  | recovers h => exact .recovers h
  | waits h => exact .waits h
  | connected h =>
    obtain ⟨other, hmem, current⟩ := h
    rw [hloops, List.mem_cons] at hmem
    rcases hmem with rfl | hmem
    · exact .loses (known current) current
    · exact .connected ⟨other, hmem, current⟩

/-- A receive loop is started for the transport that has been set, or else the main thread has
cleared it and goes on from there. -/
theorem Underway.launches {transport : ConnectionTransport} (h : Underway s)
    (he : s.executor = .launching transport)
    (hset : s.transport = some transport ∨ s.transport = none) :
    Underway { s with
      connectionGeneration := s.connectionGeneration + 1
      loops := s.loops ++ [⟨transport, s.connectionGeneration + 1⟩]
      executor := .connected } := by
  rcases hset with hset | hset
  · exact .connected ⟨⟨transport, s.connectionGeneration + 1⟩, by simp, by simp [isCurrent, hset]⟩
  · have none_current (loop : ReceiveLoop) : s.isCurrent loop = false := by simp [isCurrent, hset]
    cases h with
    | rests h => exact .rests h
    | pends h => exact .pends h
    | attempts h => simp [he, ConnectPlace.attempts] at h
    | attached _ set => simp [hset] at set
    | fails h => exact .fails h
    | @loses loop _ current => simp [none_current loop] at current
    | recovers h => exact .recovers h
    | waits h => exact .waits h
    | connected h =>
      obtain ⟨loop, -, current⟩ := h
      simp [none_current loop] at current

/-- The service serves the configuration it has, if it has one. -/
structure Serves (phone : CompanionPhone) (s : CompanionService) : Prop where
  attached : ∀ transport, s.executor.attached = some transport →
    s.transport = some transport ∨ s.transport = none
  underway : s.saved.config phone ≠ none → Underway s

theorem serves_onCreate (phone : CompanionPhone) (prefs : ConnectionPreferences) :
    Serves phone (onCreate phone prefs) :=
  ⟨by simp [onCreate, ConnectPlace.attached], fun _ => .rests rfl⟩

theorem Serves.mainStep (h : Serves phone s) : Serves phone (s.mainStep phone) := by
  unfold CompanionService.mainStep
  cases hm : s.main with
  | idle => exact h
  | starting =>
    obtain ⟨busy, tasks, hs⟩ := startPending_eq s
    rw [hs]
    exact ⟨h.attached, fun hsaved =>
      (h.underway hsaved).moves .idle s.executor busy tasks _ (by rw [hm]; rfl) rfl rfl⟩
  | closing => exact ⟨h.attached, fun _ => .recovers rfl⟩
  | detaching =>
    refine ⟨fun _ _ => Or.inr rfl, fun hsaved => .recovers ?_⟩
    obtain ⟨config, hconfig⟩ := Option.ne_none_iff_exists'.mp hsaved
    simp only at hconfig
    simp [hconfig, MainPlace.recovers]
  | scheduling config =>
    dsimp only
    split_ifs
    · exact ⟨h.attached, fun _ => .rests rfl⟩
    · exact ⟨h.attached, fun _ => .recovers rfl⟩
  | counting config => exact ⟨h.attached, fun _ => .recovers rfl⟩
  | arming config attempts => exact ⟨h.attached, fun _ => .waits (by simp)⟩

theorem Serves.executorStep (h : Serves phone s) (ok : Bool) :
    Serves phone (s.executorStep phone ok) := by
  -- from one place without an attempt at hand to another
  have on {here : ConnectPlace} (he : s.executor = here) (place : ConnectPlace)
      (hh : here.attempts = false ∧ here.attached = none)
      (hp : place.attempts = false ∧ place.attached = none) (busy : Bool) (tasks attempts : Nat) :
      Serves phone { s with
        executor := place
        connectionInProgress := busy
        tasks := tasks
        reconnectAttempts := attempts } := by
    subst he
    refine ⟨fun transport ht => ?_, fun hsaved => ?_⟩
    · simp [hp.2] at ht
    · exact (h.underway hsaved).moves s.main place busy tasks attempts rfl (hh.1.trans hp.1.symm)
        (hh.2.trans hp.2.symm)
  unfold CompanionService.executorStep
  cases he : s.executor with
  | idle => exact h
  | reading => exact on he _ ⟨rfl, rfl⟩ (ConnectPlace.ofSlot_aside _) _ _ _
  | clearing config => exact ⟨by simp [ConnectPlace.attached], fun _ => .attempts rfl⟩
  | closing config => exact ⟨by simp [ConnectPlace.attached], fun _ => .attempts rfl⟩
  | detaching config => exact ⟨by simp [ConnectPlace.attached], fun _ => .attempts rfl⟩
  | dialing config =>
    dsimp only
    split_ifs
    · exact ⟨fun _ ht => Or.inl ht, fun _ => .attached rfl rfl⟩
    · exact ⟨by simp [ConnectPlace.attached], fun _ => .attempts rfl⟩
  | greeting transport =>
    cases ok with
    | false => exact ⟨by simp [ConnectPlace.attached], fun _ => .attempts rfl⟩
    | true =>
      refine ⟨fun other ht => h.attached other (by rwa [he]), fun hsaved => ?_⟩
      exact (h.underway hsaved).moves s.main (.launching transport) _ _ _ rfl (by rw [he]; rfl)
        (by rw [he]; rfl)
  | launching transport =>
    refine ⟨by simp [ConnectPlace.attached], fun hsaved => ?_⟩
    exact (h.underway hsaved).launches he (h.attached transport (by rw [he]; rfl))
  | connected => exact on he .reading ⟨rfl, rfl⟩ ⟨rfl, rfl⟩ _ _ _
  | failed config =>
    dsimp only
    split_ifs with hslot
    · exact ⟨by simp [ConnectPlace.attached], fun _ => .attempts rfl⟩
    · exact ⟨by simp [ConnectPlace.attached], fun _ => .pends hslot⟩
  | posting config =>
    exact ⟨by simp [ConnectPlace.attached], fun _ => @Underway.fails _ config (by simp)⟩
  | releasing => exact on he .rechecking ⟨rfl, rfl⟩ ⟨rfl, rfl⟩ _ _ _
  | rechecking =>
    dsimp only
    split_ifs
    · exact on he .idle ⟨rfl, rfl⟩ ⟨rfl, rfl⟩ _ _ _
    · exact on he .starting ⟨rfl, rfl⟩ ⟨rfl, rfl⟩ _ _ _
  | starting =>
    obtain ⟨busy, tasks, hs⟩ := startPending_eq s
    rw [hs]
    exact on he .idle ⟨rfl, rfl⟩ ⟨rfl, rfl⟩ busy tasks _

theorem Serves.step (h : Serves phone s) (i : ServiceStep) : Serves phone (s.step phone i) := by
  apply step_rule (Serves phone) i h
  case configure => exact fun _ _ => ⟨h.attached, fun _ => .pends (by simp [connectWithRetry])⟩
  case restart => exact fun _ _ _ => ⟨h.attached, fun _ => .pends (by simp [connectWithRetry])⟩
  case fires => exact fun _ _ _ => ⟨h.attached, fun _ => .pends (by simp [connectWithRetry])⟩
  case failed => exact fun _ _ _ _ => ⟨h.attached, fun _ => .recovers rfl⟩
  case lost => exact fun _ _ _ _ _ => ⟨h.attached, fun _ => .recovers rfl⟩
  case stale =>
    intro loop posted hposted hstale
    exact ⟨h.attached, fun hsaved => (h.underway hsaved).skips hposted hstale⟩
  case main => exact fun _ => h.mainStep
  case task =>
    intro hidle _
    refine ⟨by simp [ConnectPlace.attached], fun hsaved => ?_⟩
    exact (h.underway hsaved).moves s.main .reading _ _ _ rfl (by rw [hidle]; rfl)
      (by rw [hidle]; rfl)
  case executor => exact fun ok _ => h.executorStep ok
  case throws =>
    intro loop loops hloops
    exact ⟨h.attached, fun hsaved => (h.underway hsaved).ends hloops
      (fun _ hm => List.mem_append_left _ hm) (fun _ => by simp)⟩
  case ends =>
    intro loop loops hloops hstale
    exact ⟨h.attached, fun hsaved => (h.underway hsaved).ends hloops (fun _ hm => hm)
      (fun hcurrent => by simp [hstale] at hcurrent)⟩

theorem Serves.settled (h : Serves phone s) (ha : Awake s) (hs : s.Settled)
    (hsaved : s.saved.config phone ≠ none) :
    s.Connected ∨ s.timers ≠ [] ∨ s.resting = true := by
  have hslot := ha.settled hs
  obtain ⟨hmain, hexecutor, -, hposted⟩ := hs
  cases h.underway hsaved with
  | rests h => exact Or.inr (Or.inr h)
  | pends h => exact (h hslot).elim
  | attempts h => simp [hexecutor, ConnectPlace.attempts] at h
  | attached h => simp [hexecutor, ConnectPlace.attached] at h
  | fails h => simp [hposted] at h
  | loses h => simp [hposted] at h
  | recovers h => simp [hmain, MainPlace.recovers] at h
  | waits h => exact Or.inr (Or.inl h)
  | connected h => exact Or.inl h

/-- The configuration that is at hand anywhere is the saved one, or a newer one is in the slot. -/
structure Latest (phone : CompanionPhone) (s : CompanionService) : Prop where
  slot : ∀ config, s.pendingConnectionConfig = some config → s.saved.config phone = some config
  dials : ∀ config, s.executor.dials = some config →
    s.saved.config phone = some config ∨ s.pendingConnectionConfig ≠ none
  transport : ∀ transport, s.transport = some transport →
    s.saved.config phone = some transport.config ∨ s.pendingConnectionConfig ≠ none ∨
      s.executor.replaces = true
  timers : s.timers = [] ∨ ∃ timer, s.timers = [timer] ∧ s.reconnectRunnable = some timer.id ∧
    s.saved.config phone = some timer.config
  tried : s.tried = true ∨ s.pendingConnectionConfig ≠ none

theorem latest_onCreate (phone : CompanionPhone) (prefs : ConnectionPreferences) :
    Latest phone (onCreate phone prefs) where
  slot := by simp [onCreate]
  dials := by simp [onCreate, ConnectPlace.dials]
  transport := by simp [onCreate]
  timers := Or.inl rfl
  tried := Or.inl rfl

/-- The step of the connection executor clears what it has read, and no other configuration; a
reconnect is posted for the saved configuration, and while none waits. -/
def Undisturbed (phone : CompanionPhone) (s : CompanionService) : ServiceStep → Prop
  | .executor _ => ∀ config ∈ s.executor.clears, s.pendingConnectionConfig = some config
  | .main => ∀ config ∈ s.main.arms, s.saved.config phone = some config ∧ s.timers = []
  | _ => True

instance : DecidablePred (Undisturbed phone s)
  | .executor _ => inferInstanceAs (Decidable (∀ config ∈ s.executor.clears, _))
  | .main => inferInstanceAs (Decidable (∀ config ∈ s.main.arms, _ ∧ _))
  | .onStartCommand _ | .message | .timer _ | .task | .loopThrows | .loopEnds =>
    instDecidableTrue

/-- The reconnect that waits is the one that `cancelReconnect` knows. -/
theorem Latest.cancelled (h : Latest phone s) : s.cancelReconnect.timers = [] := by
  rcases h.timers with ht | ⟨timer, ht, hr, -⟩
  · simp [cancelReconnect, ht]
  · simp [cancelReconnect, ht, hr]

theorem latest_connectWithRetry {config : PendingConnectionConfig}
    (hsaved : s.saved.config phone = some config) (hcancelled : s.cancelReconnect.timers = []) :
    Latest phone (s.connectWithRetry config) where
  slot := by
    intro other hother
    cases hother
    exact hsaved
  dials := fun _ _ => Or.inr (by simp [connectWithRetry])
  transport := fun _ _ => Or.inr (Or.inl (by simp [connectWithRetry]))
  timers := Or.inl hcancelled
  tried := Or.inr (by simp [connectWithRetry])

/-- The executor's thread goes on to a place with no attempt at hand that has not replaced the
transport. -/
theorem Latest.moves (h : Latest phone s) (executor : ConnectPlace) (busy : Bool)
    (tasks attempts : Nat) (posted : List MainMessage) (generation : Nat)
    (loops : List ReceiveLoop) (hhere : s.executor.replaces = false) (hdials : executor.dials = none) :
    Latest phone { s with
      executor := executor
      connectionInProgress := busy
      tasks := tasks
      reconnectAttempts := attempts
      posted := posted
      connectionGeneration := generation
      loops := loops } where
  slot := h.slot
  dials := fun config hconfig => by simp [hdials] at hconfig
  transport := by
    intro transport ht
    rcases h.transport transport ht with hc | hp | hr
    · exact Or.inl hc
    · exact Or.inr (Or.inl hp)
    · simp [hhere] at hr
  timers := h.timers
  tried := h.tried

theorem Latest.mainStep (h : Latest phone s) (hu : Undisturbed phone s .main) :
    Latest phone (s.mainStep phone) := by
  unfold CompanionService.mainStep
  cases hm : s.main with
  | idle => exact h
  | starting =>
    obtain ⟨busy, tasks, hs⟩ := startPending_eq s
    rw [hs]
    exact ⟨h.slot, h.dials, h.transport, h.timers, h.tried⟩
  | closing => exact ⟨h.slot, h.dials, h.transport, h.timers, h.tried⟩
  | detaching => exact ⟨h.slot, h.dials, fun _ ht => by simp at ht, h.timers, h.tried⟩
  | scheduling config =>
    dsimp only
    split_ifs
    · exact ⟨h.slot, h.dials, h.transport, h.timers, h.tried⟩
    · exact ⟨h.slot, h.dials, h.transport, h.timers, h.tried⟩
  | counting config => exact ⟨h.slot, h.dials, h.transport, h.timers, h.tried⟩
  | arming config attempts =>
    obtain ⟨hsaved, htimers⟩ := hu config (by rw [hm]; rfl)
    refine ⟨h.slot, h.dials, h.transport, Or.inr ⟨⟨s.fresh, config⟩, ?_, rfl, hsaved⟩, h.tried⟩
    simp [htimers]

theorem Latest.executorStep (h : Latest phone s) {ok : Bool}
    (hu : Undisturbed phone s (.executor ok)) : Latest phone (s.executorStep phone ok) := by
  unfold CompanionService.executorStep
  cases he : s.executor with
  | idle => exact h
  | reading => exact h.moves _ _ _ _ _ _ _ (by rw [he]; rfl) (ConnectPlace.ofSlot_dials _)
  | clearing config =>
    have hslot : s.pendingConnectionConfig = some config := hu config (by rw [he]; rfl)
    have hsaved := h.slot config hslot
    refine ⟨by simp, ?_, fun _ _ => Or.inr (Or.inr rfl), h.timers, Or.inl (by simp [hsaved])⟩
    intro other hother
    cases hother
    exact Or.inl hsaved
  | closing config =>
    exact ⟨h.slot, fun other ho => h.dials other (by rw [he]; exact ho),
      fun _ _ => Or.inr (Or.inr rfl), h.timers, h.tried⟩
  | detaching config =>
    exact ⟨h.slot, fun other ho => h.dials other (by rw [he]; exact ho),
      fun _ ht => by simp at ht, h.timers, h.tried⟩
  | dialing config =>
    dsimp only
    split_ifs
    · refine ⟨h.slot, by simp [ConnectPlace.dials], ?_, h.timers, h.tried⟩
      intro transport ht
      cases ht
      rcases h.dials config (by rw [he]; rfl) with hc | hp
      · exact Or.inl hc
      · exact Or.inr (Or.inl hp)
    · exact h.moves _ _ _ _ _ _ _ (by rw [he]; rfl) rfl
  | greeting transport =>
    exact h.moves _ _ _ _ _ _ _ (by rw [he]; rfl) (by cases ok <;> rfl)
  | launching transport => exact h.moves _ _ _ _ _ _ _ (by rw [he]; rfl) rfl
  | connected => exact h.moves _ _ _ _ _ _ _ (by rw [he]; rfl) rfl
  | failed config =>
    exact h.moves _ _ _ _ _ _ _ (by rw [he]; rfl) (by split_ifs <;> rfl)
  | posting config => exact h.moves _ _ _ _ _ _ _ (by rw [he]; rfl) rfl
  | releasing => exact h.moves _ _ _ _ _ _ _ (by rw [he]; rfl) rfl
  | rechecking => exact h.moves _ _ _ _ _ _ _ (by rw [he]; rfl) (by split_ifs <;> rfl)
  | starting =>
    obtain ⟨busy, tasks, hs⟩ := startPending_eq s
    rw [hs]
    exact h.moves _ busy tasks _ _ _ _ (by rw [he]; rfl) rfl

theorem Latest.step (h : Latest phone s) {i : ServiceStep} (hu : Undisturbed phone s i) :
    Latest phone (s.step phone i) := by
  apply step_rule (Latest phone) i h
  case configure =>
    intro config _
    exact latest_connectWithRetry (SavedConnection.config_save phone config) h.cancelled
  case restart =>
    intro config _ hsaved
    exact latest_connectWithRetry hsaved h.cancelled
  case fires =>
    intro timer hmem _
    rcases h.timers with ht | ⟨other, ht, -, hsaved⟩
    · simp [ht] at hmem
    · rw [ht, List.mem_singleton] at hmem
      subst hmem
      exact latest_connectWithRetry hsaved (by simp [cancelReconnect, ht])
  case failed => exact fun _ _ _ _ => ⟨h.slot, h.dials, h.transport, h.timers, h.tried⟩
  case lost => exact fun _ _ _ _ _ => ⟨h.slot, h.dials, h.transport, h.timers, h.tried⟩
  case stale => exact fun _ _ _ _ => ⟨h.slot, h.dials, h.transport, h.timers, h.tried⟩
  case main =>
    rintro rfl
    exact h.mainStep hu
  case task => exact fun hidle _ => h.moves _ _ _ _ _ _ _ (by rw [hidle]; rfl) rfl
  case executor =>
    rintro ok rfl
    exact h.executorStep hu
  case throws => exact fun _ _ _ => ⟨h.slot, h.dials, h.transport, h.timers, h.tried⟩
  case ends => exact fun _ _ _ _ => ⟨h.slot, h.dials, h.transport, h.timers, h.tried⟩

/-- The service keeps to the configuration received last: at most one reconnect is scheduled, and
once all queued work has run, what it is connected to and what it will retry is that one, which has
come to an attempt; with a configuration it is connected or retries, unless no start has asked for it
or the attempts were used up. -/
structure LatestWins (phone : CompanionPhone) (s : CompanionService) : Prop where
  one : s.timers.length ≤ 1
  connects : s.Settled → ∀ transport, s.transport = some transport →
    s.saved.config phone = some transport.config
  retries : s.Settled → ∀ timer ∈ s.timers, s.saved.config phone = some timer.config
  tried : s.Settled → s.tried = true
  serves : s.Settled → s.saved.config phone ≠ none →
    s.Connected ∨ s.timers ≠ [] ∨ s.resting = true

theorem latestWins_of (ha : Awake s) (hv : Serves phone s) (h : Latest phone s) :
    LatestWins phone s where
  one := by
    rcases h.timers with ht | ⟨timer, ht, -⟩ <;> simp [ht]
  connects := by
    intro hs transport ht
    rcases h.transport transport ht with hc | hp | hr
    · exact hc
    · exact (hp (ha.settled hs)).elim
    · simp [hs.2.1, ConnectPlace.replaces] at hr
  retries := by
    intro _ timer hmem
    rcases h.timers with ht | ⟨other, ht, -, hsaved⟩
    · simp [ht] at hmem
    · rw [ht, List.mem_singleton] at hmem
      rwa [hmem]
  tried := fun hs => h.tried.resolve_right (fun hp => hp (ha.settled hs))
  serves := fun hs hsaved => hv.settled ha hs hsaved

/-- A phone, and a desktop that is configured by its endpoint. -/
def somePhone : CompanionPhone :=
  ⟨some "9f3a", some "Pixel 8", fun text => if text = "AQ==" then some [1] else none⟩

def configure (endpoint : String) : ServiceStep :=
  .onStartCommand ⟨some ACTION_CONFIGURE_CONNECTION, some endpoint, none, none, none, none,
    some "AQ=="⟩

/-- `MainActivity` starts the service as well. -/
def restart : ServiceStep := .onStartCommand ⟨none, none, none, none, none, none, none⟩

/-- The connection executor's part of an attempt, from the read of the slot on. -/
def attempt (ok : Bool) : List ServiceStep := List.replicate (if ok then 8 else 7) (.executor ok)

/-- The end of the connection executor's task. -/
def finish : List ServiceStep := List.replicate 3 (.executor true)

/-- The oldest message is a failure, and a reconnect is posted. -/
def reconnect : List ServiceStep := [.message, .main, .main, .main]

def unsaved : ConnectionPreferences := ⟨none, none, none, none⟩

/-- In every state that a run reaches, if its steps up to the end are undisturbed. -/
theorem latest_config_wins_along (phone : CompanionPhone) (prefs : ConnectionPreferences)
    (is : List ServiceStep)
    (h : Along (step phone) (Undisturbed phone) (onCreate phone prefs) is) :
    ∀ pre post, is = pre ++ post →
      LatestWins phone (run (step phone) (onCreate phone prefs) pre) := by
  rintro pre post rfl
  have keeps := run_invariant (fun s => Awake s ∧ Serves phone s ∧ Latest phone s)
    (fun s i hs hu => ⟨hs.1.step i, hs.2.1.step i, hs.2.2.step hu⟩)
    ⟨awake_onCreate phone prefs, serves_onCreate phone prefs, latest_onCreate phone prefs⟩ h.before
  exact latestWins_of keeps.1 keeps.2.1 keeps.2.2

/-- A configuration whose first attempt fails, and is made again. -/
def retried : List ServiceStep :=
  [configure "quic://a:9", .main, .task] ++ attempt false ++ finish ++ reconnect ++
    [.timer 0, .main, .task] ++ attempt true ++ finish

theorem latest_config_wins_along_retry :
    LatestWins somePhone (run (step somePhone) (onCreate somePhone unsaved) retried) :=
  latest_config_wins_along somePhone unsaved retried (by decide) retried []
    (List.append_nil retried).symm

/-- The failure of `a` is handled after `b` has come, and its reconnect goes back to `a`. -/
def staleRetry : List ServiceStep :=
  [configure "quic://a:9", .main, .task] ++ attempt false ++ [configure "quic://b:9", .main] ++
    attempt true ++ finish ++ reconnect ++ [.timer 1, .main, .task] ++ attempt true ++ finish

/-- `b` comes between the read of the slot and its clearing. -/
def lostConfig : List ServiceStep :=
  [configure "quic://a:9", .main, .task, .executor true, configure "quic://b:9", .main] ++
    (attempt true).tail ++ finish

/-- A start comes between a failed attempt and the handling of its failure, and its attempt fails
too. -/
def twoTimers : List ServiceStep :=
  [configure "quic://a:9", .main, .task] ++ attempt false ++ finish ++
    [restart, .main, .task] ++ attempt false ++ finish ++ reconnect ++ reconnect

theorem older_config_wins :
    ¬LatestWins somePhone (run (step somePhone) (onCreate somePhone unsaved) staleRetry) ∧
      ¬LatestWins somePhone (run (step somePhone) (onCreate somePhone unsaved) lostConfig) ∧
      ¬LatestWins somePhone (run (step somePhone) (onCreate somePhone unsaved) twoTimers) := by
  refine ⟨fun h => ?_, fun h => ?_, fun h => ?_⟩
  · have hconfig := h.connects (by decide +kernel)
      ⟨2, ⟨"quic://a:9", "9f3a", "adbcontrol.local", [1]⟩⟩ (by decide +kernel)
    exact absurd hconfig (by decide +kernel)
  · exact absurd (h.tried (by decide)) (by decide)
  · exact absurd h.one (by decide)

end CompanionService

end AdbControl.Companion
