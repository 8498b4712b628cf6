import AdbControl.Framework.Outcome
import AdbControl.Framework.Run
import AdbControl.Ipc

namespace AdbControl

open Framework

def adbKeepaliveMinIntervalSecs : UInt32 := 5

structure AdbKeepAliveConfig where
  enabled : Bool
  intervalSecs : UInt32
  deriving DecidableEq, Repr

def AdbKeepAliveConfig.default : AdbKeepAliveConfig := ⟨true, 30⟩

def AdbKeepAliveConfig.validate (config : AdbKeepAliveConfig) : Except AppError Unit :=
  if config.intervalSecs < adbKeepaliveMinIntervalSecs then
    .error ⟨"ADB_KEEPALIVE_INTERVAL_INVALID",
      "ADB keep-alive interval must be at least " ++ toString adbKeepaliveMinIntervalSecs ++
        " seconds.", "adb.keepalive", false, none⟩
  else .ok ()

structure AdbKeepAliveStatus where
  enabled : Bool
  intervalSecs : UInt32
  running : Bool
  startedAt : Option Nat
  lastCheckAt : Option Nat
  lastOk : Option Bool
  lastExitCode : Option Int
  consecutiveFailures : UInt32
  lastError : Option AppError
  deriving DecidableEq, Repr

namespace AdbKeepAliveStatus

def initial (config : AdbKeepAliveConfig) (now : Nat) : AdbKeepAliveStatus :=
  ⟨config.enabled, config.intervalSecs, true, some now, none, none, none, 0, none⟩

/-- The configuration in effect. -/
def config (status : AdbKeepAliveStatus) : AdbKeepAliveConfig :=
  ⟨status.enabled, status.intervalSecs⟩

def applyConfigure (status : AdbKeepAliveStatus) (config : AdbKeepAliveConfig) :
    AdbKeepAliveStatus :=
  { status with enabled := config.enabled, intervalSecs := config.intervalSecs }

/-- The outcome of `adb start-server`: an exit code, or why it could not be run. -/
def applyCycle (status : AdbKeepAliveStatus) (now : Nat) (result : Except AppError Int) :
    AdbKeepAliveStatus :=
  let status := { status with lastCheckAt := some now }
  match result with
  | .ok exitCode =>
    let status := { status with lastExitCode := some exitCode }
    if exitCode = 0 then
      { status with lastOk := some true, consecutiveFailures := 0, lastError := none }
    else
      { status with
        lastOk := some false
        consecutiveFailures := status.consecutiveFailures + 1
        lastError := some ⟨"ADB_KEEPALIVE_START_SERVER_FAILED",
          "adb start-server exited with code " ++ toString exitCode ++ ".", "adb.keepalive", true,
          none⟩ }
  | .error e =>
    { status with
      lastOk := some false
      lastExitCode := none
      consecutiveFailures := status.consecutiveFailures + 1
      lastError := some e }

@[simp] theorem config_initial (config : AdbKeepAliveConfig) (now : Nat) :
    (initial config now).config = config := rfl

@[simp] theorem config_applyConfigure (status : AdbKeepAliveStatus) (config : AdbKeepAliveConfig) :
    (status.applyConfigure config).config = config := rfl

@[simp] theorem config_applyCycle (status : AdbKeepAliveStatus) (now : Nat)
    (result : Except AppError Int) : (status.applyCycle now result).config = status.config := by
  cases result with
  | error e => rfl
  | ok exitCode =>
    unfold applyCycle
    by_cases h : exitCode = 0 <;> simp [h, config]

end AdbKeepAliveStatus

/-- A partial update of the configuration. -/
structure AdbKeepAliveConfigureParams where
  enabled : Option Bool
  intervalSecs : Option UInt32
  deriving DecidableEq, Repr

namespace AdbKeepAliveConfigureParams

/-- An `Option` field with a default: missing or `null` is none. -/
def optional {α : Type} (decode : Value → Option α) : Option Value → Option (Option α)
  | none | some .null => some none
  | some v => (decode v).map some

def ofJson (v : Value) : Option AdbKeepAliveConfigureParams := do
  let [enabled, intervalSecs] ← v.structFields ["enabled", "intervalSecs"] | none
  let enabled ← optional Value.asBool enabled
  let intervalSecs ← optional (Value.asUnsigned 32) intervalSecs
  some ⟨enabled, intervalSecs.map UInt32.ofNat⟩

def mergeInto (params : AdbKeepAliveConfigureParams) (current : AdbKeepAliveConfig) :
    AdbKeepAliveConfig :=
  ⟨params.enabled.getD current.enabled, params.intervalSecs.getD current.intervalSecs⟩

end AdbKeepAliveConfigureParams

/-- The first part of `handle_adb_keepalive_configure`: the update that a request asks for, and
the whole configuration that it makes of the status. -/
def checkAdbKeepaliveConfigure (keepalive : Option AdbKeepAliveStatus) (request : IpcRequest) :
    Except AppError (AdbKeepAliveConfigureParams × AdbKeepAliveConfig) := do
  let params ← parseIpcParams ("adb.keepalive.configure params must match " ++
    "\x7b enabled?: boolean, intervalSecs?: number \x7d.") AdbKeepAliveConfigureParams.ofJson
    request.params
  match keepalive with
  | none =>
    .error ⟨"ADB_KEEPALIVE_NOT_STARTED",
      "ADB keep-alive supervisor is not running in this Core instance.", "adb.keepalive", true,
      none⟩
  | some current =>
    if params.enabled.isNone && params.intervalSecs.isNone then
      .error ⟨"IPC_PARAMS_INVALID",
        "adb.keepalive.configure requires at least one of enabled / intervalSecs.",
        "ipc.protocol", false, none⟩
    else
      let merged := params.mergeInto current.config
      merged.validate
      pure (params, merged)

inductive KeepAliveControl
  | configure (config : AdbKeepAliveConfig)
  | stop
  deriving DecidableEq, Repr

def KeepAliveControl.config : KeepAliveControl → Option AdbKeepAliveConfig
  | configure config => some config
  | stop => none

/-- Where `keepalive_loop` stands: it runs `adb start-server`, it is about to read the status, it
waits for a message (with a timeout when enabled), it has taken a configuration and not yet
applied it, it has left the loop, or its thread has ended. -/
inductive LoopPhase
  | checking
  | reading
  | waiting (enabled : Bool) (intervalSecs : UInt32)
  | configuring (config : AdbKeepAliveConfig)
  | leaving
  | ended
  deriving DecidableEq, Repr

/-- Where a handler stands whose request passed the checks: it has merged the update, it has
applied the configuration, or it has queued it. -/
inductive HandlerPhase
  | merged | applied | queued
  deriving DecidableEq, Repr

structure ConfigureHandler where
  requestId : String
  config : AdbKeepAliveConfig
  phase : HandlerPhase
  deriving DecidableEq, Repr

/-- The keep-alive thread, the status it shares with the handlers, the messages queued for it, and
the handlers at work in the order in which their requests were accepted. -/
structure KeepAlive where
  shared : AdbKeepAliveStatus
  control : List KeepAliveControl
  loop : LoopPhase
  handlers : List ConfigureHandler

/-- A request arrives, the handler of the `n`-th request at work takes its next step, the thread is
asked to stop, or it takes its next step. -/
inductive KeepAliveAct
  | request (request : IpcRequest)
  | handle (n : Nat)
  | stop
  | checked (now : Nat) (result : Except AppError Int)
  | read
  | receive
  | timeout
  | configure
  | leave

namespace KeepAlive

/-- The state after `spawn_adb_keepalive`. -/
def spawn (config : AdbKeepAliveConfig) (now : Nat) : KeepAlive :=
  ⟨AdbKeepAliveStatus.initial config now, [], .checking, []⟩

/-- The next step of a handler: it applies its configuration, then sends it to the thread, then
answers. It fails when the thread has ended. -/
def handle (s : KeepAlive) (n : Nat) (handler : ConfigureHandler) : KeepAlive :=
  match handler.phase with
  | .merged =>
    { s with
      shared := s.shared.applyConfigure handler.config
      handlers := s.handlers.set n { handler with phase := .applied } }
  | .applied =>
    if s.loop = .ended then { s with handlers := s.handlers.eraseIdx n }
    else
      { s with
        control := s.control ++ [.configure handler.config]
        handlers := s.handlers.set n { handler with phase := .queued } }
  | .queued => { s with handlers := s.handlers.eraseIdx n }

def step (s : KeepAlive) : KeepAliveAct → KeepAlive
  | .request request =>
    match checkAdbKeepaliveConfigure (some s.shared) request with
    | .error _ => s
    | .ok (_, merged) => { s with handlers := s.handlers ++ [⟨request.id, merged, .merged⟩] }
  | .handle n =>
    match s.handlers[n]? with
    | none => s
    | some handler => s.handle n handler
  | .stop => if s.loop = .ended then s else { s with control := s.control ++ [.stop] }
  | .checked now result =>
    if s.loop = .checking then { s with shared := s.shared.applyCycle now result, loop := .reading }
    else s
  | .read =>
    if s.loop = .reading then { s with loop := .waiting s.shared.enabled s.shared.intervalSecs }
    else s
  | .receive =>
    match s.loop, s.control with
    | .waiting _ _, .configure config :: rest =>
      { s with control := rest, loop := .configuring config }
    | .waiting _ _, .stop :: rest => { s with control := rest, loop := .leaving }
    | _, _ => s
  | .timeout =>
    match s.loop with
    | .waiting true _ => { s with loop := .checking }
    | _ => s
  | .configure =>
    match s.loop with
    | .configuring config =>
      { s with shared := s.shared.applyConfigure config, loop := .reading }
    | _ => s
  | .leave =>
    if s.loop = .leaving then { s with shared := { s.shared with running := false }, loop := .ended }
    else s

/-- The update that a step accepts. -/
def accepts (s : KeepAlive) : KeepAliveAct → List AdbKeepAliveConfigureParams
  | .request request =>
    (checkAdbKeepaliveConfigure (some s.shared) request).toOption.toList.map Prod.fst
  | _ => []

/-- What a step answers, and to which request. -/
def replies (s : KeepAlive) : KeepAliveAct → List (String × Except AppError AdbKeepAliveStatus)
  | .request request =>
    match checkAdbKeepaliveConfigure (some s.shared) request with
    | .error e => [(request.id, .error e)]
    | .ok _ => []
  | .handle n =>
    match s.handlers[n]? with
    | none => []
    | some handler =>
      match handler.phase with
      | .merged => []
      | .applied =>
        if s.loop = .ended then
          [(handler.requestId, .error ⟨"ADB_KEEPALIVE_THREAD_STOPPED",
            "ADB keep-alive thread has already stopped.", "adb.keepalive", false, none⟩)]
        else []
      | .queued => [(handler.requestId, .ok s.shared)]
  | _ => []

/-- A request that is refused changes nothing. -/
theorem refused_unchanged {s : KeepAlive} {request : IpcRequest} {e : AppError}
    (h : (request.id, .error e) ∈ s.replies (.request request)) : s.step (.request request) = s := by
  cases hcheck : checkAdbKeepaliveConfigure (some s.shared) request with
  | error e' => simp only [step, hcheck]
  | ok pair => simp [replies, hcheck] at h

/-- The configurations still to be sent to the thread. -/
def unsent (handlers : List ConfigureHandler) : List AdbKeepAliveConfig :=
  (handlers.filter (fun handler => handler.phase ≠ .queued)).map ConfigureHandler.config

/-- The configuration that the thread has taken. -/
def held : LoopPhase → Option AdbKeepAliveConfig
  | .configuring config => some config
  | _ => none

/-- The configurations that the thread has yet to apply, in the order in which it will. -/
def outstanding (s : KeepAlive) : List AdbKeepAliveConfig :=
  (held s.loop).toList ++ s.control.filterMap KeepAliveControl.config ++ unsent s.handlers

/-- The configuration that was accepted last. -/
def latest (s : KeepAlive) : AdbKeepAliveConfig := s.outstanding.getLast?.getD s.shared.config

/-- The thread takes messages. -/
def Alive (s : KeepAlive) : Prop := s.loop ≠ .leaving ∧ s.loop ≠ .ended

/-- The queue has drained: the thread takes messages, and it has applied all of them. -/
def Drained (s : KeepAlive) : Prop := s.Alive ∧ s.outstanding = []

/-- A request finds the fields that it omits as the last accepted configuration has them, and a
handler that sends its configuration leaves none behind that it was accepted after, unless it is
the same. -/
def InOrder (s : KeepAlive) : KeepAliveAct → Prop
  | .request request =>
    ∀ accepted ∈ (checkAdbKeepaliveConfigure (some s.shared) request).toOption,
      (accepted.1.enabled = none → s.shared.enabled = s.latest.enabled) ∧
      (accepted.1.intervalSecs = none → s.shared.intervalSecs = s.latest.intervalSecs)
  | .handle n => ∀ handler ∈ s.handlers[n]?, handler.phase = .applied →
      ∀ config ∈ (unsent (s.handlers.eraseIdx n)).getLast?,
        (unsent s.handlers).getLast? = some config
  | _ => True

instance (s : KeepAlive) : Decidable s.Drained :=
  inferInstanceAs (Decidable ((s.loop ≠ .leaving ∧ s.loop ≠ .ended) ∧ s.outstanding = []))

instance (s : KeepAlive) : ∀ act, Decidable (s.InOrder act)
  | .request request => inferInstanceAs (Decidable
      (∀ accepted ∈ (checkAdbKeepaliveConfigure (some s.shared) request).toOption,
        (accepted.1.enabled = none → s.shared.enabled = s.latest.enabled) ∧
        (accepted.1.intervalSecs = none → s.shared.intervalSecs = s.latest.intervalSecs)))
  | .handle n => inferInstanceAs (Decidable
      (∀ handler ∈ s.handlers[n]?, handler.phase = .applied →
        ∀ config ∈ (unsent (s.handlers.eraseIdx n)).getLast?,
          (unsent s.handlers).getLast? = some config))
  | .stop | .checked _ _ | .read | .receive | .timeout | .configure | .leave =>
    inferInstanceAs (Decidable True)

section Order

variable {s : KeepAlive}

theorem checked_merged {request : IpcRequest} {update : AdbKeepAliveConfigureParams}
    {merged : AdbKeepAliveConfig}
    (h : checkAdbKeepaliveConfigure (some s.shared) request = .ok (update, merged)) :
    merged = update.mergeInto s.shared.config := by
  obtain ⟨params, hparams, hrest⟩ := bind_eq_ok.mp h
  split_ifs at hrest with hnone
  obtain ⟨u, hvalid, hpair⟩ := bind_eq_ok.mp hrest
  cases hpair
  rfl

/-- An update that finds what it omits as it was accepted last merges into that. -/
theorem mergeInto_latest {update : AdbKeepAliveConfigureParams}
    (henabled : update.enabled = none → s.shared.enabled = s.latest.enabled)
    (hinterval : update.intervalSecs = none → s.shared.intervalSecs = s.latest.intervalSecs) :
    update.mergeInto s.shared.config = update.mergeInto s.latest := by
  obtain ⟨enabled, intervalSecs⟩ := update
  have first : enabled.getD s.shared.config.enabled = enabled.getD s.latest.enabled := by
    cases enabled with
    | none => exact henabled rfl
    | some b => rfl
  have second : intervalSecs.getD s.shared.config.intervalSecs =
      intervalSecs.getD s.latest.intervalSecs := by
    cases intervalSecs with
    | none => exact hinterval rfl
    | some n => rfl
  exact congrArg₂ AdbKeepAliveConfig.mk first second

theorem latest_drained (h : s.outstanding = []) : s.latest = s.shared.config := by
  rw [latest, h]
  rfl

theorem latest_of_getLast {config : AdbKeepAliveConfig}
    (h : s.outstanding.getLast? = some config) : s.latest = config := by
  rw [latest, h]
  rfl

/-- With the same configurations outstanding, or some and the same last one, the last accepted
configuration is the same. -/
theorem latest_congr {t : KeepAlive} (hout : t.outstanding.getLast? = s.outstanding.getLast?)
    (hconfig : s.outstanding = [] → t.shared.config = s.shared.config) : t.latest = s.latest := by
  unfold latest
  rw [hout]
  cases hlast : s.outstanding.getLast? with
  | none => exact hconfig (List.getLast?_eq_none_iff.mp hlast)
  | some config => rfl

section Handlers

variable {handlers : List ConfigureHandler} {n : Nat} {handler : ConfigureHandler}

theorem split_at (h : handlers[n]? = some handler) :
    ∃ pre post, handlers = pre ++ handler :: post ∧ pre.length = n := by
  obtain ⟨hlt, hget⟩ := List.getElem?_eq_some_iff.mp h
  refine ⟨handlers.take n, handlers.drop (n + 1), ?_, List.length_take_of_le hlt.le⟩
  rw [← hget, List.getElem_cons_drop hlt, List.take_append_drop]

theorem unsent_append (earlier later : List ConfigureHandler) :
    unsent (earlier ++ later) = unsent earlier ++ unsent later := by
  simp [unsent]

/-- A handler that does not send keeps its place. -/
theorem unsent_set (h : handlers[n]? = some handler) {phase : HandlerPhase}
    (hphase : phase = .queued ↔ handler.phase = .queued) :
    unsent (handlers.set n { handler with phase }) = unsent handlers := by
  obtain ⟨pre, post, rfl, rfl⟩ := split_at h
  by_cases hq : handler.phase = .queued <;> simp [unsent, hphase, hq]

/-- A handler that sends leaves the others. -/
theorem unsent_set_queued (h : handlers[n]? = some handler) :
    unsent (handlers.set n { handler with phase := .queued }) = unsent (handlers.eraseIdx n) := by
  obtain ⟨pre, post, rfl, rfl⟩ := split_at h
  have erased : (pre ++ handler :: post).eraseIdx pre.length = pre ++ post := by
    rw [List.eraseIdx_append_of_length_le (le_refl _), Nat.sub_self]
    rfl
  rw [erased]
  simp [unsent]

/-- A handler that has sent leaves the rest as it was. -/
theorem unsent_erase_queued (h : handlers[n]? = some handler) (hq : handler.phase = .queued) :
    unsent (handlers.eraseIdx n) = unsent handlers := by
  rw [← unsent_set_queued h]
  exact unsent_set h (iff_of_true rfl hq)

/-- A handler still to send that leaves none behind is the only one. -/
theorem unsent_alone (h : handlers[n]? = some handler) (hphase : handler.phase ≠ .queued)
    (hleft : unsent (handlers.eraseIdx n) = []) : unsent handlers = [handler.config] := by
  rw [← unsent_set_queued h] at hleft
  obtain ⟨pre, post, rfl, rfl⟩ := split_at h
  have parts : unsent pre = [] ∧ unsent post = [] := by simpa [unsent] using hleft
  have self : unsent (handler :: post) = handler.config :: unsent post := by simp [unsent, hphase]
  rw [unsent_append, self, parts.1, parts.2]
  rfl

end Handlers

@[simp] theorem handle_loop (s : KeepAlive) (n : Nat) (handler : ConfigureHandler) :
    (s.handle n handler).loop = s.loop := by
  unfold handle
  split
  · rfl
  · split_ifs <;> rfl
  · rfl

/-- A thread that no longer takes messages never does again. -/
theorem alive_of_step (s : KeepAlive) (act : KeepAliveAct) (h : (s.step act).Alive) : s.Alive := by
  by_contra hgone
  have gone : s.loop = .leaving ∨ s.loop = .ended := by
    by_contra hnot
    exact hgone (not_or.mp hnot)
  have after : (s.step act).loop = .leaving ∨ (s.step act).loop = .ended := by
    cases act with
    | request request =>
      simp only [step]
      split <;> exact gone
    | handle n =>
      simp only [step]
      split
      · exact gone
      · rw [handle_loop]
        exact gone
    | leave =>
      simp only [step]
      split_ifs
      · exact Or.inr rfl
      · exact gone
    | stop =>
      simp only [step]
      split_ifs <;> exact gone
    | _ => rcases gone with hloop | hloop <;> simp [step, hloop]
  rcases after with hloop | hloop
  · exact h.1 hloop
  · exact h.2 hloop

/-- A request is accepted with its update merged into the configuration accepted last. -/
theorem latest_request (request : IpcRequest) (ordered : s.InOrder (.request request)) :
    (s.step (.request request)).latest =
      (s.accepts (.request request)).foldl (fun config update => update.mergeInto config)
        s.latest := by
  cases hcheck : checkAdbKeepaliveConfigure (some s.shared) request with
  | error e => simp [step, accepts, hcheck, Except.toOption]
  | ok pair =>
    obtain ⟨update, merged⟩ := pair
    have hagree := ordered (update, merged) (by simp [hcheck, Except.toOption])
    have hmerged : merged = update.mergeInto s.latest :=
      (checked_merged hcheck).trans (mergeInto_latest hagree.1 hagree.2)
    have last : (s.step (.request request)).outstanding.getLast? = some merged := by
      simp [step, hcheck, outstanding, unsent]
    rw [latest_of_getLast last, hmerged]
    simp [accepts, hcheck, Except.toOption]

theorem latest_handle (n : Nat) (alive : s.Alive) (ordered : s.InOrder (.handle n)) :
    (s.step (.handle n)).latest = s.latest := by
  cases hn : s.handlers[n]? with
  | none => simp [step, hn]
  | some handler =>
    simp only [step, hn]
    unfold handle
    obtain ⟨pre, post, hsplit, -⟩ := split_at hn
    split
    · next hphase =>
      apply latest_congr
      · rw [outstanding, outstanding, unsent_set hn (by simp [hphase])]
      · intro hnil
        simp [outstanding, hsplit, unsent, hphase] at hnil
    · next hphase =>
      rw [if_neg alive.2]
      apply latest_congr
      · rw [outstanding, outstanding, unsent_set_queued hn]
        simp only [List.getLast?_append]
        cases hleft : (unsent (s.handlers.eraseIdx n)).getLast? with
        | none =>
          rw [unsent_alone hn (by simp [hphase]) (List.getLast?_eq_none_iff.mp hleft)]
          simp [KeepAliveControl.config]
        | some config =>
          rw [ordered handler hn hphase config hleft]
          rfl
      · intro hnil
        simp [outstanding, hsplit, unsent, hphase] at hnil
    · next hphase =>
      apply latest_congr
      · rw [outstanding, outstanding, unsent_erase_queued hn hphase]
      · intro _
        rfl

/-- Steps of the thread keep the order, for as long as it takes messages. -/
theorem latest_receive (alive : (s.step .receive).Alive) : (s.step .receive).latest = s.latest := by
  simp only [step]
  split
  · next enabled intervalSecs config rest hloop hcontrol =>
    apply latest_congr
    · simp [outstanding, held, hloop, hcontrol, KeepAliveControl.config]
    · intro _
      rfl
  · next enabled intervalSecs rest hloop hcontrol =>
    simp [step, hloop, hcontrol, Alive] at alive
  · rfl

theorem latest_configure : (s.step .configure).latest = s.latest := by
  simp only [step]
  split
  · next config hloop =>
    cases hrest : s.control.filterMap KeepAliveControl.config ++ unsent s.handlers with
    | nil =>
      have last : s.outstanding.getLast? = some config := by
        rw [outstanding, List.append_assoc, hrest, hloop]
        rfl
      rw [latest_of_getLast last]
      apply latest_drained
      rw [outstanding, List.append_assoc, hrest]
      rfl
    | cons next rest =>
      have both : s.outstanding = config :: next :: rest := by
        rw [outstanding, List.append_assoc, hrest, hloop]
        rfl
      apply latest_congr
      · rw [both, outstanding, List.append_assoc, hrest, List.getLast?_cons_cons]
        rfl
      · intro hnil
        rw [both] at hnil
        cases hnil
  · rfl

/-- A step that meets its condition merges what it accepts into the last accepted configuration. -/
theorem latest_step (s : KeepAlive) (act : KeepAliveAct) (alive : (s.step act).Alive)
    (ordered : s.InOrder act) :
    (s.step act).latest = (s.accepts act).foldl (fun config update => update.mergeInto config)
      s.latest := by
  cases act with
  | request request => exact latest_request request ordered
  | handle n => exact latest_handle n (alive_of_step s (.handle n) alive) ordered
  | receive => exact latest_receive alive
  | configure => exact latest_configure
  | stop =>
    simp only [step]
    split_ifs
    · rfl
    · apply latest_congr
      · simp [outstanding, KeepAliveControl.config]
      · intro _
        rfl
  | leave =>
    simp only [step]
    split_ifs with hloop
    · simp [step, hloop, Alive] at alive
    · rfl
  | checked now result =>
    simp only [step]
    split_ifs with hloop
    · apply latest_congr
      · simp [outstanding, held, hloop]
      · intro _
        exact AdbKeepAliveStatus.config_applyCycle _ _ _
    · rfl
  | read =>
    simp only [step]
    split_ifs with hloop
    · apply latest_congr
      · simp [outstanding, held, hloop]
      · intro _
        rfl
    · rfl
  | timeout =>
    simp only [step]
    split
    · next hloop =>
      apply latest_congr
      · simp [outstanding, held, hloop]
      · intro _
        rfl
    · rfl

end Order

/-- The last accepted configuration is the first one with all accepted updates merged into it. -/
def Tracks (config : AdbKeepAliveConfig) (s : KeepAlive)
    (updates : List AdbKeepAliveConfigureParams) : Prop :=
  s.Alive → s.latest = updates.foldl (fun config update => update.mergeInto config) config

theorem tracks_step (config : AdbKeepAliveConfig) (s : KeepAlive)
    (updates : List AdbKeepAliveConfigureParams) (act : KeepAliveAct) (h : Tracks config s updates)
    (ordered : s.InOrder act) : Tracks config (s.step act) (updates ++ s.accepts act) := by
  intro alive
  have before : s.latest = updates.foldl (fun config update => update.mergeInto config) config :=
    h (alive_of_step s act alive)
  rw [latest_step s act alive ordered, before, List.foldl_append]

/-- No update is lost in a run whose steps keep the order: once the queue has drained, the
configuration in effect is the first one with all accepted updates merged into it. -/
theorem no_update_lost (config : AdbKeepAliveConfig) (now : Nat) (acts : List KeepAliveAct)
    (ordered : Along step InOrder (spawn config now) acts)
    (drained : (run step (spawn config now) acts).Drained) :
    (run step (spawn config now) acts).shared.config =
      (eventsOf step accepts (spawn config now) acts).foldl
        (fun config update => update.mergeInto config) config := by
  have start : Tracks config (spawn config now) [] := by
    intro _
    rfl
  have tracked := run_history_along (Tracks config) (tracks_step config) start ordered
  rw [← latest_drained drained.2]
  exact tracked drained.1

/-- The request with these parameters. -/
def configureRequest (id : String) (members : List (String × Value)) : KeepAliveAct :=
  .request ⟨id, "adb.keepalive.configure", .object members⟩

/-- Two requests that are served while the thread keeps up. -/
theorem no_update_lost_served :
    (run step (spawn .default 0) [configureRequest "1" [("enabled", .bool false)], .handle 0,
      .handle 0, .handle 0, .checked 1 (.ok 0), .read, .receive, .configure,
      configureRequest "2" [("intervalSecs", .number (.posInt 60))], .handle 0, .handle 0,
      .handle 0, .read, .receive, .configure]).shared.config = ⟨false, 60⟩ :=
  no_update_lost .default 0 _ (by decide) (by decide)

/-- Three requests, one after the other, while the thread is busy with `adb start-server` and then
takes one message. -/
def busyRun : List KeepAliveAct :=
  [configureRequest "1" [("enabled", .bool false)], .handle 0, .handle 0, .handle 0,
    configureRequest "2" [("intervalSecs", .number (.posInt 60))], .handle 0, .handle 0, .handle 0,
    .checked 1 (.ok 0), .read, .receive, .configure,
    configureRequest "3" [("enabled", .bool true)], .handle 0, .handle 0, .handle 0,
    .read, .receive, .configure, .read, .receive, .configure]

/-- The third request reads the first one's configuration again and loses the interval of the
second. -/
theorem update_lost :
    (run step (spawn .default 0) busyRun).Drained ∧
    eventsOf step accepts (spawn .default 0) busyRun =
      [⟨some false, none⟩, ⟨none, some 60⟩, ⟨some true, none⟩] ∧
    (run step (spawn .default 0) busyRun).shared.config = ⟨true, 30⟩ ∧
    (eventsOf step accepts (spawn .default 0) busyRun).foldl
      (fun config update => update.mergeInto config) .default = ⟨true, 60⟩ := by
  decide

end KeepAlive

end AdbControl
