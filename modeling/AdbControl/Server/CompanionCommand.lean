import AdbControl.Companion.Commands

namespace AdbControl.Server

open Framework

/-- An error of the unified contract, or that of the request's own end. -/
inductive CommandError
  | app (e : AppError)
  | cancelled
  deriving DecidableEq, Repr

inductive CompanionTransport
  | quic
  | adbBroadcast
  deriving DecidableEq, Repr

def isCompanionSessionUnavailable (e : AppError) : Bool :=
  e.errorCode == "COMPANION_DEVICE_NOT_CONNECTED" || e.errorCode == "COMPANION_SESSION_NOT_CONNECTED"

/-- What becomes of one `device.invoke`, and whether the companion runs the command for it: the
companion answers with a result or an error of its own, Core has no session to send the command
to, or anything else goes wrong (a timeout, a closed stream, an answer that cannot be read), which
does not tell whether the companion runs it. -/
inductive InvokeOutcome
  | success (result : Value)
  | reported (e : AppError) (ran : Bool)
  | notConnected (e : AppError) (code : isCompanionSessionUnavailable e = true)
  | failed (e : AppError) (code : isCompanionSessionUnavailable e = false) (ran : Bool)

/-- What `core.Call` returns. -/
def InvokeOutcome.answer : InvokeOutcome → Except AppError Value
  | success result => .ok result
  | reported e _ => .error e
  | notConnected e _ => .error e
  | failed e _ _ => .error e

def InvokeOutcome.ran : InvokeOutcome → Bool
  | success _ => true
  | reported _ ran => ran
  | notConnected .. => false
  | failed _ _ ran => ran

/-- What becomes of the broadcast over ADB, which may also run the command and fail. -/
structure BroadcastOutcome where
  answer : Except AppError Unit
  ran : Bool

/-- A command handed to one of the transports. -/
inductive Attempt
  | quic (outcome : InvokeOutcome)
  | broadcast (outcome : BroadcastOutcome)

def Attempt.ran : Attempt → Bool
  | quic outcome => outcome.ran
  | broadcast outcome => outcome.ran

/-- One look at the result file, and whether the request has ended when the next is due. -/
structure Reading where
  output : Except AppError String
  cancelled : Bool

/-- What one call of `InvokeCompanionCapability` meets, in the order in which it may. -/
structure CompanionEnv where
  ensure : Except AppError Unit
  first : InvokeOutcome
  /-- the last configuration was sent within the cooldown -/
  provisionedRecently : Bool
  provision : Except AppError Unit
  /-- the answers of `device.getCapabilities` until the wait is over -/
  polls : List (Except AppError (List Value))
  second : InvokeOutcome
  argsEncode : Bool
  broadcast : BroadcastOutcome
  readings : Nat → Reading

/-- The attempts of a call, in their order, and what it returns. -/
structure Invocation where
  attempts : List Attempt
  transport : CompanionTransport
  result : Except CommandError Value

def companionCapabilityCatalogReady (capabilities : List Value) : Bool := !capabilities.isEmpty

def waitForCompanionQUIC : List (Except AppError (List Value)) → Bool
  | [] => false
  | .ok capabilities :: rest => companionCapabilityCatalogReady capabilities || waitForCompanionQUIC rest
  | .error e :: rest => isCompanionSessionUnavailable e && waitForCompanionQUIC rest

def provisionCompanionQUICIfDue (recently : Bool) (provision : Except AppError Unit) :
    Except AppError Bool :=
  if recently then .ok false else provision.map (fun _ => true)

def connectCompanionQUICIfPossible (env : CompanionEnv) : Bool :=
  match provisionCompanionQUICIfDue env.provisionedRecently env.provision with
  | .error _ => false
  | .ok configured => configured && waitForCompanionQUIC env.polls

def companionResultMissing : AppError :=
  ⟨"COMPANION_RESULT_MISSING", "Companion 未返回命令结果", "device.companion", true, none⟩

def companionResultInvalid : AppError :=
  ⟨"COMPANION_RESULT_INVALID", "Companion 返回了无法解析的结果", "device.companion", true, none⟩

def companionCommandFailed : AppError :=
  ⟨"COMPANION_COMMAND_FAILED", "Companion 命令执行失败", "device.companion", true, none⟩

def companionCommandInvalid : AppError :=
  ⟨"COMPANION_COMMAND_INVALID", "Companion 能力或操作为空", "device.companion", false, none⟩

def companionArgsInvalid : AppError :=
  ⟨"COMPANION_ARGS_INVALID", "Companion 参数无法编码", "device.companion", false, none⟩

/-- The loop over the looks that are left, from the `attempt`-th on, with the error of the last. -/
def readResult (readings : Nat → Reading) (lastErr : Option AppError) (attempt : Nat) :
    Nat → Except CommandError String
  | 0 => .error (.app (lastErr.getD companionResultMissing))
  | left + 1 =>
    match (readings attempt).output with
    | .ok output =>
      if trim output.toList ≠ [] then .ok (String.ofList (trim output.toList))
      else if (readings attempt).cancelled then .error .cancelled
      else readResult readings none (attempt + 1) left
    | .error e =>
      if (readings attempt).cancelled then .error .cancelled
      else readResult readings (some e) (attempt + 1) left

def readCompanionCommandResult (readings : Nat → Reading) : Except CommandError String :=
  readResult readings none 0 30

/-- The error of a result; without a code it counts as none. -/
def resultError (v : Value) : Option (Option AppError) :=
  match v.memberOr "error" .null with
  | .null => some none
  | .object members => do
    let text (name : String) := ((Value.object members).memberOr name (.string "")).asStr
    let errorCode ← text "errorCode"
    let message ← text "message"
    let module ← text "module"
    let recoverable ← ((Value.object members).memberOr "recoverable" (.bool false)).asBool
    let _ ← text "cause"
    let suggestion ← text "suggestion"
    let _ ← text "traceId"
    some (if errorCode = "" then none
      else some ⟨errorCode, message, module, recoverable,
        if suggestion = "" then none else some suggestion⟩)
  | _ => none

/-- `ok` and `error` of a result. -/
def companionCommandEnvelope (v : Value) : Option (Bool × Option AppError) :=
  match v with
  | .null => some (false, none)
  | .object members => do
    let ok ← ((Value.object members).memberOr "ok" (.bool false)).asBool
    let error ← resultError (.object members)
    some (ok, error)
  | _ => none

section

variable (parse : String → Option Value) (env : CompanionEnv) (capabilityID operation : String)

def validateCompanionCommandResult (payload : String) : Except AppError Unit :=
  match (parse payload).bind companionCommandEnvelope with
  | none => .error companionResultInvalid
  | some (true, _) => .ok ()
  | some (false, some e) => .error e
  | some (false, none) => .error companionCommandFailed

/-- The broadcast over ADB, if it comes to one, and the payload of the result. -/
def executeCompanionCommand : List Attempt × Except CommandError String :=
  if isBlank capabilityID ∨ isBlank operation then ([], .error (.app companionCommandInvalid))
  else if env.argsEncode = false then ([], .error (.app companionArgsInvalid))
  else
    ([.broadcast env.broadcast],
      match env.broadcast.answer with
      | .error e => .error (.app e)
      | .ok () =>
        match readCompanionCommandResult env.readings with
        | .error e => .error e
        | .ok payload =>
          match validateCompanionCommandResult parse payload with
          | .error e => .error (.app e)
          | .ok () => .ok payload)

/-- The result of a broadcast is read as an object. -/
def readPayload (payload : String) : Except CommandError Value :=
  match parse payload with
  | some .null => .ok .null
  | some (.object members) => .ok (.object members)
  | _ => .error (.app companionResultInvalid)

/-- The end of a call that takes the command to the broadcast. -/
def broadcastCommand (attempts : List Attempt) : Invocation :=
  let executed := executeCompanionCommand parse env capabilityID operation
  ⟨attempts ++ executed.1, .adbBroadcast, executed.2.bind (readPayload parse)⟩

def invokeCompanionCapability : Invocation :=
  match env.ensure with
  | .error e => ⟨[], .adbBroadcast, .error (.app e)⟩
  | .ok () =>
    match env.first.answer with
    | .ok result => ⟨[.quic env.first], .quic, .ok result⟩
    | .error e =>
      if !isCompanionSessionUnavailable e then ⟨[.quic env.first], .quic, .error (.app e)⟩
      else if connectCompanionQUICIfPossible env then
        match env.second.answer with
        | .ok result => ⟨[.quic env.first, .quic env.second], .quic, .ok result⟩
        -- whatever the error is, the command goes on to the broadcast
        | .error _ =>
          broadcastCommand parse env capabilityID operation [.quic env.first, .quic env.second]
      else broadcastCommand parse env capabilityID operation [.quic env.first]

end

/-- The companion runs the command once at most, and an error that it reports is returned. -/
structure AtMostOnce (invocation : Invocation) : Prop where
  once : invocation.attempts.countP Attempt.ran ≤ 1
  returned : ∀ e ran, .quic (.reported e ran) ∈ invocation.attempts →
    invocation.transport = .quic ∧ invocation.result = .error (.app e)

/-- The command can be handed to the broadcast at all. -/
def CompanionEnv.Broadcasts (env : CompanionEnv) (capabilityID operation : String) : Prop :=
  isBlank capabilityID = false ∧ isBlank operation = false ∧ env.argsEncode = true

/-- The second try over QUIC leaves nothing that the broadcast would repeat. -/
def CompanionEnv.SecondSettles (env : CompanionEnv) (capabilityID operation : String) : Prop :=
  match env.second with
  | .success _ | .notConnected .. => True
  | .reported .. => False
  | .failed _ _ ran =>
    ran = true → env.Broadcasts capabilityID operation → env.broadcast.ran = false

/-- The companion reports no error of its own under a code of a missing session; and where Core has
no session at first and gets one, the second try settles the command. -/
def CompanionEnv.Settles (env : CompanionEnv) (capabilityID operation : String) : Prop :=
  env.ensure = .ok () →
    match env.first with
    | .success _ | .failed .. => True
    | .reported e _ => isCompanionSessionUnavailable e = false
    | .notConnected .. =>
      connectCompanionQUICIfPossible env = true → env.SecondSettles capabilityID operation

variable {parse : String → Option Value} {env : CompanionEnv} {capabilityID operation : String}

theorem broadcast_attempts :
    (executeCompanionCommand parse env capabilityID operation).1 = [.broadcast env.broadcast] ∧
      env.Broadcasts capabilityID operation ∨
    (executeCompanionCommand parse env capabilityID operation).1 = [] ∧
      ¬env.Broadcasts capabilityID operation := by
  unfold executeCompanionCommand CompanionEnv.Broadcasts
  split_ifs with hblank hargs
  · right
    refine ⟨rfl, ?_⟩
    intro h
    rcases hblank with hcapability | hoperation
    · simp [h.1] at hcapability
    · simp [h.2.1] at hoperation
  · right
    refine ⟨rfl, ?_⟩
    intro h
    simp [h.2.2] at hargs
  · left
    simp only [not_or, Bool.not_eq_true] at hblank
    exact ⟨rfl, hblank.1, hblank.2, by simpa using hargs⟩

/-- Of a call that ends with the broadcast: it is right when no error was reported before, and
either nothing ran before or the broadcast runs nothing. -/
theorem broadcastCommand_atMostOnce (attempts : List Attempt) :
    AtMostOnce (broadcastCommand parse env capabilityID operation attempts) ↔
      (∀ e ran, Attempt.quic (.reported e ran) ∉ attempts) ∧
      attempts.countP Attempt.ran ≤ 1 ∧ (attempts.countP Attempt.ran = 1 →
        env.Broadcasts capabilityID operation → env.broadcast.ran = false) := by
  have reports (e : AppError) (ran : Bool) :
      Attempt.quic (.reported e ran) ∈
        attempts ++ (executeCompanionCommand parse env capabilityID operation).1 ↔
      Attempt.quic (.reported e ran) ∈ attempts := by
    rcases @broadcast_attempts parse env capabilityID operation with ⟨he, -⟩ | ⟨he, -⟩ <;> simp [he]
  have runs : (attempts ++ (executeCompanionCommand parse env capabilityID operation).1).countP
      Attempt.ran ≤ 1 ↔ attempts.countP Attempt.ran ≤ 1 ∧ (attempts.countP Attempt.ran = 1 →
        env.Broadcasts capabilityID operation → env.broadcast.ran = false) := by
    rw [List.countP_append]
    rcases @broadcast_attempts parse env capabilityID operation with ⟨he, hsent⟩ | ⟨he, hnot⟩
    · rw [he, List.countP_singleton]
      cases hran : env.broadcast.ran with
      | true =>
        have ran : Attempt.ran (.broadcast env.broadcast) = true := hran
        rw [if_pos ran]
        constructor
        · intro h
          exact ⟨by omega, by omega⟩
        · intro h
          have idle : attempts.countP Attempt.ran ≠ 1 := fun hone => nomatch h.2 hone hsent
          omega
      | false =>
        have idle : ¬Attempt.ran (.broadcast env.broadcast) = true := by simp [Attempt.ran, hran]
        rw [if_neg idle]
        simp
    · rw [he]
      simp [hnot]
  constructor
  · intro h
    refine ⟨?_, runs.mp h.once⟩
    intro e ran hmem
    cases (h.returned e ran ((reports e ran).mpr hmem)).1
  · rintro ⟨hreports, hruns⟩
    refine ⟨runs.mpr hruns, ?_⟩
    intro e ran hmem
    exact (hreports e ran ((reports e ran).mp hmem)).elim

/-- A first try whose outcome is returned as it is. -/
theorem atMostOnce_first (outcome : InvokeOutcome) :
    AtMostOnce ⟨[.quic outcome], .quic, outcome.answer.mapError CommandError.app⟩ := by
  constructor
  · exact List.countP_le_length
  · intro e ran hmem
    cases List.mem_singleton.mp hmem
    exact ⟨rfl, rfl⟩

/-- A command that Core had no session for runs at the second try, if at all. -/
theorem atMostOnce_second {e : AppError} {code : isCompanionSessionUnavailable e = true}
    (result : Value) :
    AtMostOnce ⟨[.quic (.notConnected e code), .quic (.success result)], .quic, .ok result⟩ := by
  constructor
  · simp [Attempt.ran, InvokeOutcome.ran]
  · intro e' ran hmem
    simp at hmem

/-- One call of the companion is right exactly when its outcomes settle it. -/
theorem at_most_once_iff (parse : String → Option Value) (env : CompanionEnv)
    (capabilityID operation : String) :
    AtMostOnce (invokeCompanionCapability parse env capabilityID operation) ↔
      env.Settles capabilityID operation := by
  unfold invokeCompanionCapability CompanionEnv.Settles
  cases hensure : env.ensure with
  | error e =>
    refine iff_of_true ⟨Nat.zero_le _, ?_⟩ (fun h => by cases h)
    intro e' ran hmem
    cases hmem
  | ok u =>
    cases hfirst : env.first with
    | success result =>
      exact iff_of_true (atMostOnce_first (.success result)) (fun _ => trivial)
    | failed e code ran =>
      simp only [InvokeOutcome.answer, code, Bool.not_false, if_true]
      exact iff_of_true (atMostOnce_first (.failed e code ran)) (fun _ => trivial)
    | reported e ran =>
      simp only [InvokeOutcome.answer, forall_const]
      cases code : isCompanionSessionUnavailable e with
      | false =>
        simp only [Bool.not_false, if_true]
        exact iff_of_true (atMostOnce_first (.reported e ran)) trivial
      | true =>
        -- the error goes unreturned on every way on
        simp only [Bool.not_true, Bool.false_eq_true, if_false]
        refine iff_of_false ?_ (fun h => by cases h)
        split_ifs with hconnect
        · split
          · intro h
            cases (h.returned e ran List.mem_cons_self).2
          · rw [broadcastCommand_atMostOnce]
            exact fun h => h.1 e ran List.mem_cons_self
        · rw [broadcastCommand_atMostOnce]
          exact fun h => h.1 e ran List.mem_cons_self
    | notConnected e code =>
      simp only [InvokeOutcome.answer, code, Bool.not_true, Bool.false_eq_true, if_false,
        forall_const]
      cases hconnect : connectCompanionQUICIfPossible env with
      | false =>
        simp only [Bool.false_eq_true, if_false, false_imp_iff, iff_true]
        rw [broadcastCommand_atMostOnce]
        simp [Attempt.ran, InvokeOutcome.ran]
      | true =>
        simp only [if_true, forall_const, CompanionEnv.SecondSettles]
        cases hsecond : env.second with
        | success result => exact iff_of_true (atMostOnce_second result) trivial
        | reported e' ran =>
          refine iff_of_false ?_ id
          simp only [broadcastCommand_atMostOnce]
          exact fun h => h.1 e' ran (by simp)
        | notConnected e' code' =>
          simp only [broadcastCommand_atMostOnce]
          simp [Attempt.ran, InvokeOutcome.ran]
        | failed e' code' ran =>
          simp only [broadcastCommand_atMostOnce]
          cases ran <;> simp [Attempt.ran, InvokeOutcome.ran]

/-- The phone takes an SMS over QUIC and sends it, its answer comes too late, and the broadcast
makes it send the SMS again. -/
def lateAnswer : CompanionEnv where
  ensure := .ok ()
  first := .notConnected (Companion.sessionNotConnected "usb-7") rfl
  provisionedRecently := false
  provision := .ok ()
  polls := [.ok [.object []]]
  second := .failed Companion.commandTimeout rfl true
  argsEncode := true
  broadcast := ⟨.ok (), true⟩
  readings := fun _ => ⟨.ok "done", false⟩

theorem sms_sent_twice : ¬∀ (parse : String → Option Value) (env : CompanionEnv)
    (capabilityID operation : String),
    AtMostOnce (invokeCompanionCapability parse env capabilityID operation) := by
  intro h
  have once := (h (fun _ => some (.object [("ok", .bool true)])) lateAnswer "android.sms.send"
    "sms.send").once
  revert once
  decide

end AdbControl.Server
