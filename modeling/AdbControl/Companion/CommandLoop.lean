import AdbControl.Companion.ControlStream
import AdbControl.Companion.FileSandbox
import AdbControl.Framework.Run

namespace AdbControl.Companion

open Framework

mutual

/-- Whether `JSONObject` takes a value: every number in it is finite. -/
def finiteJson : Value → Bool
  | .number (.float text) => text ∉ ["NaN", "Infinity", "-Infinity"]
  | .array items => finiteItems items
  | .object members => finiteMembers members
  | _ => true

def finiteItems : List Value → Bool
  | [] => true
  | item :: items => finiteJson item && finiteItems items

def finiteMembers : List (String × Value) → Bool
  | [] => true
  | (_, item) :: members => finiteJson item && finiteMembers members

end

def QuicChannel.wireName : QuicChannel → String
  | control => "control"
  | data => "data"
  | media => "media"

/-- The object that `encodeEnvelope` prints. -/
def QuicEnvelope.toJson (envelope : QuicEnvelope) : Value :=
  .object ([("protocol", .string envelope.protocol),
      ("version", .number (.posInt envelope.version.toNat)),
      ("messageId", .string envelope.messageId)] ++
    envelope.traceId.toList.map (fun id => ("traceId", .string id)) ++
    envelope.deviceId.toList.map (fun id => ("deviceId", .string id)) ++
    [("channel", .string (QuicChannel.wireName envelope.channel)),
      ("kind", .string envelope.kind.name), ("payload", envelope.payload)])

structure CompanionCommandRequest where
  requestId : String
  capabilityId : String
  operation : String
  args : List (String × CommandArg)
  deriving Repr

def CompanionCommandRequest.context (request : CompanionCommandRequest) : CompanionCommandContext :=
  ⟨request.requestId, request.capabilityId, request.operation, request.args⟩

/-- The service behind a connection, and what it stands on: `toString()` of values other than texts,
`toInt()` of numbers, the UTF-8 text of a JSON object, and the feature handlers. -/
structure CommandService (σ : Type*) where
  toString : Value → String
  toInt : Number → Int
  print : Value → List UInt8
  handle : AndroidFeatureDispatcher.Handle σ
  connectedDeviceId : Option String
  defaultDeviceId : String
  certificateFingerprintSha256 : Option String

/-- An envelope that is polled, what Android answers the permission guard then, and the time. -/
structure Polled where
  envelope : QuicEnvelope
  guard : PermissionGuard
  currentTimeMillis : Nat

/-- The control loop: what the handlers keep, the messages handed to the native writer, and whether
an exception has ended it. -/
structure ControlLoop (σ : Type*) where
  handlers : σ
  sent : List (List UInt8)
  ready : Bool
  stopped : Bool

namespace CommandService

variable {σ : Type*} (service : CommandService σ)

def textOf : Value → String
  | .string s => s
  | v => service.toString v

/-- A member of a payload, as a map knows it: null counts as absent. -/
def member (payload : Value) (key : String) : Option Value :=
  match payload.get? key with
  | some .null => none
  | found => found

def commandArg : Value → Option CommandArg
  | .null => none
  | .string s => some (.text s)
  | .number n => some (.number n (service.toInt n) (service.toString (.number n)))
  | v => some (.other v (service.toString v))

def commandArgs : Option Value → List (String × CommandArg)
  | some (.object members) =>
    members.filterMap (fun m => (service.commandArg m.2).map (fun arg => (m.1, arg)))
  | _ => []

def illegalState (message : String) : Throwable :=
  ⟨.runtime, "IllegalStateException", some message⟩

def toCommandRequest (envelope : QuicEnvelope) : Except Throwable CompanionCommandRequest :=
  let payload := envelope.payload
  let requestId := ((member payload "requestId").map service.textOf).getD envelope.messageId
  match member payload "capabilityId", member payload "operation" with
  | none, _ => .error (illegalState "commandRequest 缺少 capabilityId。")
  | some _, none => .error (illegalState "commandRequest 缺少 operation。")
  | some capabilityId, some operation =>
    .ok ⟨requestId, service.textOf capabilityId, service.textOf operation,
      service.commandArgs (member payload "args")⟩

/-- The envelope that answers a command with a result. -/
def answerEnvelope (deviceId : String) (traceId : Option String)
    (result : CompanionCommandResult) (requestId : String) : QuicEnvelope :=
  ⟨companionProtocol, companionProtocolVersion, "response-" ++ requestId, traceId, some deviceId,
    .control, if result.ok then .commandResponse else .error,
    .object (result.toPayload ++
      [("certificateFingerprintSha256", jsonNullable service.certificateFingerprintSha256)])⟩

def handleCommandRequest (guard : PermissionGuard) (deviceId : String) (traceId : Option String)
    (request : CompanionCommandRequest) (handlers : σ) : Except Throwable QuicEnvelope × σ :=
  let (outcome, handlers) :=
    AndroidFeatureDispatcher.dispatch guard service.handle request.context handlers
  (outcome.map (fun result => service.answerEnvelope deviceId traceId result request.requestId),
    handlers)

/-- `encodeEnvelope`; an object with a number that is not finite is not printed. -/
def encodeEnvelope (envelope : QuicEnvelope) : Option (List UInt8) :=
  if finiteJson envelope.payload then some (service.print envelope.toJson) else none

/-- `send` over a live connection: the message is queued for the writer. -/
def send (loop : ControlLoop σ) (envelope : QuicEnvelope) : ControlLoop σ :=
  match service.encodeEnvelope envelope with
  | none => { loop with stopped := true }
  | some message => { loop with sent := loop.sent ++ [message] }

def heartbeat (envelope : QuicEnvelope) (currentTimeMillis : Nat) : QuicEnvelope :=
  ⟨companionProtocol, companionProtocolVersion, "heartbeat-" ++ currentTimeMillis.repr,
    envelope.traceId, service.connectedDeviceId, .control, .heartbeat,
    .object [("timestampUnixMs", .number (.posInt currentTimeMillis))]⟩

def deviceOf (envelope : QuicEnvelope) : String :=
  (envelope.deviceId.or service.connectedDeviceId).getD service.defaultDeviceId

/-- The answer to a command is sent, if there is one. -/
def sendAnswer (loop : ControlLoop σ) (answered : Except Throwable QuicEnvelope × σ) :
    ControlLoop σ :=
  match answered.1 with
  | .error _ => { loop with handlers := answered.2, stopped := true }
  | .ok answer => service.send { loop with handlers := answered.2 } answer

/-- `handleIncomingEnvelope`; an exception ends the loop. -/
def handleIncomingEnvelope (loop : ControlLoop σ) (polled : Polled) : ControlLoop σ :=
  let envelope := polled.envelope
  if envelope.protocol ≠ companionProtocol ∨ envelope.version ≠ companionProtocolVersion then
    { loop with stopped := true }
  else
    match envelope.kind with
    | .helloAck => { loop with ready := true }
    | .heartbeat => service.send loop (service.heartbeat envelope polled.currentTimeMillis)
    | .commandRequest =>
      match service.toCommandRequest envelope with
      | .error _ => { loop with stopped := true }
      | .ok request =>
        service.sendAnswer loop (service.handleCommandRequest polled.guard
          (service.deviceOf envelope) envelope.traceId request loop.handlers)
    | _ => loop

/-- The loop of `startReceiveLoop` takes an envelope, while its connection is the current one. -/
def receive (loop : ControlLoop σ) (polled : Polled) : ControlLoop σ :=
  if loop.stopped then loop else service.handleIncomingEnvelope loop polled

/-- The messages that the native writer writes of what it is handed. -/
def written (sent : List (List UInt8)) : List (List UInt8) :=
  sent.filter (fun message => message.length ≤ maxControlMessageBytes)

theorem phoneWriter_written (sent : List (List UInt8)) :
    phoneWriter sent = (written sent).flatMap frame := by
  induction sent with
  | nil => rfl
  | cons message sent ih =>
    rw [phoneWriter, written, List.filter_cons, ih]
    by_cases hlong : maxControlMessageBytes < message.length
    · rw [if_pos hlong, if_neg (by simpa using hlong)]
      rfl
    · rw [if_neg hlong, if_pos (by simpa using hlong)]
      rfl

/-- A command: its envelope has a request id, a capability and an operation. -/
structure IsCommand (envelope : QuicEnvelope) : Prop where
  kind : envelope.kind = .commandRequest
  requestId : (member envelope.payload "requestId").isSome
  capabilityId : (member envelope.payload "capabilityId").isSome
  operation : (member envelope.payload "operation").isSome

/-- A message answers a command: it is an encoded response or error with the command's request id. -/
def Answers (envelope : QuicEnvelope) (message : List UInt8) : Prop :=
  ∃ answer, (answer.kind = .commandResponse ∨ answer.kind = .error) ∧
    answer.payload.get? "requestId" =
      ((member envelope.payload "requestId").map service.textOf).map Value.string ∧
    service.encodeEnvelope answer = some message

/-- The handler that a command gets to throws no exception but a `RuntimeException`. -/
def Contained (guard : PermissionGuard) (context : CompanionCommandContext) (handlers : σ) : Prop :=
  ∀ handler t, AndroidFeatureDispatcher.route guard context = .ok handler →
    (service.handle handler context handlers).1 = .error t → t.kind = .security ∨ t.kind = .runtime

/-- A command can be answered: it has the protocol and version of the companion, its handler throws
no other exceptions than those that are caught, and its answer has finite numbers alone and fits into
a control message. -/
structure Answerable (loop : ControlLoop σ) (polled : Polled) : Prop where
  compatible : polled.envelope.protocol = companionProtocol ∧
    polled.envelope.version = companionProtocolVersion
  contained : ∀ request, service.toCommandRequest polled.envelope = .ok request →
    service.Contained polled.guard request.context loop.handlers
  fits : ∀ request answer, service.toCommandRequest polled.envelope = .ok request →
    (service.handleCommandRequest polled.guard (service.deviceOf polled.envelope)
      polled.envelope.traceId request loop.handlers).1 = .ok answer →
    finiteJson answer.payload = true ∧
      (service.print answer.toJson).length ≤ maxControlMessageBytes

section Commands

variable {service}

theorem toCommandRequest_command {envelope : QuicEnvelope} (h : IsCommand envelope) :
    ∃ request, service.toCommandRequest envelope = .ok request ∧
      (member envelope.payload "requestId").map service.textOf = some request.requestId := by
  obtain ⟨requestId, hrequestId⟩ := Option.isSome_iff_exists.mp h.requestId
  obtain ⟨capabilityId, hcapabilityId⟩ := Option.isSome_iff_exists.mp h.capabilityId
  obtain ⟨operation, hoperation⟩ := Option.isSome_iff_exists.mp h.operation
  refine ⟨_, by rw [toCommandRequest, hcapabilityId, hoperation], ?_⟩
  rw [hrequestId]
  rfl

/-- The handlers give their results under the request id of the command. -/
def KeepsRequestId (service : CommandService σ) : Prop :=
  ∀ handler context handlers result,
    (service.handle handler context handlers).1 = .ok result → result.requestId = context.requestId

/-- Every result of the dispatcher is one for the command. -/
theorem dispatch_requestId (keeps : service.KeepsRequestId) {guard : PermissionGuard}
    {context : CompanionCommandContext} {handlers : σ} {result : CompanionCommandResult}
    (h : (AndroidFeatureDispatcher.dispatch guard service.handle context handlers).1 = .ok result) :
    result.requestId = context.requestId := by
  cases hroute : AndroidFeatureDispatcher.route guard context with
  | error failure =>
    rw [AndroidFeatureDispatcher.dispatch_error hroute] at h
    cases h
    exact (AndroidFeatureDispatcher.route_error hroute).1
  | ok handler =>
    rw [AndroidFeatureDispatcher.dispatch_ok hroute] at h
    cases houtcome : (service.handle handler context handlers).1 with
    | ok result' =>
      rw [houtcome] at h
      cases h
      exact keeps handler context handlers result houtcome
    | error t =>
      rw [houtcome] at h
      exact (AndroidFeatureDispatcher.caught_ok h).1

/-- The dispatcher throws exactly what is thrown beyond the exceptions that are caught. -/
theorem contained_iff {guard : PermissionGuard} {context : CompanionCommandContext} {handlers : σ} :
    service.Contained guard context handlers ↔
      ∀ t, (AndroidFeatureDispatcher.dispatch guard service.handle context handlers).1 ≠ .error t := by
  unfold Contained
  cases hroute : AndroidFeatureDispatcher.route guard context with
  | error failure =>
    rw [AndroidFeatureDispatcher.dispatch_error hroute]
    simp
  | ok handler =>
    rw [AndroidFeatureDispatcher.dispatch_ok hroute]
    cases houtcome : (service.handle handler context handlers).1 with
    | ok result =>
      refine iff_of_true ?_ (fun t ht => by cases ht)
      rintro _ t ⟨⟩ ht
      rw [houtcome] at ht
      cases ht
    | error t =>
      have caught : (∀ t', AndroidFeatureDispatcher.caught context t ≠ .error t') ↔
          t.kind = .security ∨ t.kind = .runtime := by
        unfold AndroidFeatureDispatcher.caught
        cases t.kind <;> simp
      refine Iff.trans ?_ caught.symm
      constructor
      · intro h
        exact h handler t rfl houtcome
      · rintro h _ t' ⟨⟩ ht
        rw [houtcome] at ht
        cases ht
        exact h

/-- An answer is a response or an error, with the request id of the result. -/
theorem answerEnvelope_answers (deviceId : String) (traceId : Option String)
    (result : CompanionCommandResult) (requestId : String) :
    ((service.answerEnvelope deviceId traceId result requestId).kind = .commandResponse ∨
      (service.answerEnvelope deviceId traceId result requestId).kind = .error) ∧
    (service.answerEnvelope deviceId traceId result requestId).payload.get? "requestId" =
      some (.string result.requestId) := by
  unfold answerEnvelope CompanionCommandResult.toPayload
  cases result.ok with
  | true => exact ⟨Or.inl rfl, rfl⟩
  | false => exact ⟨Or.inr rfl, rfl⟩

/-- What a command comes to when its envelope is compatible. -/
theorem receive_command {loop : ControlLoop σ} {polled : Polled} (running : loop.stopped = false)
    (kind : polled.envelope.kind = .commandRequest)
    (compatible : polled.envelope.protocol = companionProtocol ∧
      polled.envelope.version = companionProtocolVersion)
    {request : CompanionCommandRequest}
    (hrequest : service.toCommandRequest polled.envelope = .ok request) :
    service.receive loop polled = service.sendAnswer loop
      (service.handleCommandRequest polled.guard (service.deviceOf polled.envelope)
        polled.envelope.traceId request loop.handlers) := by
  have known : ¬(polled.envelope.protocol ≠ companionProtocol ∨
      polled.envelope.version ≠ companionProtocolVersion) := by
    simp [compatible.1, compatible.2]
  rw [receive, running, if_neg (by simp), handleIncomingEnvelope, if_neg known]
  simp only [kind, hrequest]

/-- A command whose dispatch has a result can be answered when the answer can be encoded, and fits. -/
theorem answerable_iff {loop : ControlLoop σ} {polled : Polled}
    (compatible : polled.envelope.protocol = companionProtocol ∧
      polled.envelope.version = companionProtocolVersion)
    {request : CompanionCommandRequest}
    (hrequest : service.toCommandRequest polled.envelope = .ok request)
    (contained : service.Contained polled.guard request.context loop.handlers) {answer : QuicEnvelope}
    (hanswer : (service.handleCommandRequest polled.guard (service.deviceOf polled.envelope)
      polled.envelope.traceId request loop.handlers).1 = .ok answer) :
    service.Answerable loop polled ↔ finiteJson answer.payload = true ∧
      (service.print answer.toJson).length ≤ maxControlMessageBytes := by
  constructor
  · intro h
    exact h.fits request answer hrequest hanswer
  · intro h
    refine ⟨compatible, ?_, ?_⟩
    · intro request' hrequest'
      rw [hrequest] at hrequest'
      cases hrequest'
      exact contained
    · intro request' answer' hrequest' hanswer'
      rw [hrequest] at hrequest'
      cases hrequest'
      rw [hanswer] at hanswer'
      cases hanswer'
      exact h

/-- An answer is sent if it has finite numbers alone, and is written if it fits. -/
theorem send_cases (loop : ControlLoop σ) (answer : QuicEnvelope) :
    (finiteJson answer.payload = true ∧ ∃ message, service.encodeEnvelope answer = some message ∧
      message = service.print answer.toJson ∧
      service.send loop answer = { loop with sent := loop.sent ++ [message] }) ∨
    (finiteJson answer.payload ≠ true ∧ service.send loop answer = { loop with stopped := true }) := by
  by_cases hfinite : finiteJson answer.payload = true
  · have hencode : service.encodeEnvelope answer = some (service.print answer.toJson) :=
      if_pos hfinite
    exact Or.inl ⟨hfinite, _, hencode, rfl, by rw [send, hencode]⟩
  · have hencode : service.encodeEnvelope answer = none := if_neg hfinite
    exact Or.inr ⟨hfinite, by rw [send, hencode]⟩

/-- What becomes of a command: it is answered if it can be answered, and only then. -/
theorem receive_cases (keeps : service.KeepsRequestId) {loop : ControlLoop σ} {polled : Polled}
    (running : loop.stopped = false) (command : IsCommand polled.envelope) :
    (service.Answerable loop polled ∧ ∃ message,
      (service.receive loop polled).sent = loop.sent ++ [message] ∧
      (service.receive loop polled).stopped = false ∧
      message.length ≤ maxControlMessageBytes ∧ service.Answers polled.envelope message) ∨
    (¬service.Answerable loop polled ∧ ((service.receive loop polled).stopped = true ∨
      ∃ message, (service.receive loop polled).sent = loop.sent ++ [message] ∧
        ¬message.length ≤ maxControlMessageBytes)) := by
  obtain ⟨request, hrequest, hid⟩ := @toCommandRequest_command _ service _ command
  by_cases compatible : polled.envelope.protocol = companionProtocol ∧
      polled.envelope.version = companionProtocolVersion
  · have hstep := receive_command running command.kind compatible hrequest
    have mapped : (service.handleCommandRequest polled.guard (service.deviceOf polled.envelope)
        polled.envelope.traceId request loop.handlers).1 =
        (AndroidFeatureDispatcher.dispatch polled.guard service.handle request.context
          loop.handlers).1.map (fun result => service.answerEnvelope
            (service.deviceOf polled.envelope) polled.envelope.traceId result request.requestId) := rfl
    cases hdispatch : (AndroidFeatureDispatcher.dispatch polled.guard service.handle
        request.context loop.handlers).1 with
    | error t =>
      rw [hdispatch] at mapped
      refine Or.inr ⟨?_, Or.inl ?_⟩
      · intro h
        exact contained_iff.mp (h.contained request hrequest) t hdispatch
      · rw [hstep, sendAnswer, mapped]
        rfl
    | ok result =>
      rw [hdispatch] at mapped
      have contained : service.Contained polled.guard request.context loop.handlers := by
        rw [contained_iff, hdispatch]
        exact fun t ht => by cases ht
      obtain ⟨hkind, hpayload⟩ := service.answerEnvelope_answers (service.deviceOf polled.envelope)
        polled.envelope.traceId result request.requestId
      rw [answerable_iff compatible hrequest contained mapped, hstep, sendAnswer, mapped]
      simp only [Except.map]
      generalize service.answerEnvelope (service.deviceOf polled.envelope) polled.envelope.traceId
        result request.requestId = answer at hkind hpayload
      rcases service.send_cases { loop with handlers := (service.handleCommandRequest polled.guard
          (service.deviceOf polled.envelope) polled.envelope.traceId request loop.handlers).2 }
          answer with ⟨hfinite, message, hencode, rfl, hsend⟩ | ⟨hfinite, hsend⟩
      · rw [hsend]
        by_cases hlength : (service.print answer.toJson).length ≤ maxControlMessageBytes
        · refine Or.inl ⟨⟨hfinite, hlength⟩, _, rfl, running, hlength, answer, hkind, ?_, hencode⟩
          rw [hpayload, dispatch_requestId keeps hdispatch, hid]
          rfl
        · exact Or.inr ⟨fun h => hlength h.2, Or.inr ⟨_, rfl, hlength⟩⟩
      · rw [hsend]
        exact Or.inr ⟨fun h => hfinite h.1, Or.inl rfl⟩
  · refine Or.inr ⟨fun h => compatible h.compatible, Or.inl ?_⟩
    have unknown : polled.envelope.protocol ≠ companionProtocol ∨
        polled.envelope.version ≠ companionProtocolVersion := not_and_or.mp compatible
    rw [receive, running, if_neg (by simp), handleIncomingEnvelope, if_pos unknown]

theorem written_append (sent more : List (List UInt8)) :
    written (sent ++ more) = written sent ++ written more := List.filter_append sent more

theorem written_fitting {message : List UInt8} (h : message.length ≤ maxControlMessageBytes) :
    written [message] = [message] := by simp [written, h]

theorem written_long {message : List UInt8} (h : ¬message.length ≤ maxControlMessageBytes) :
    written [message] = [] := by simp [written, Nat.lt_of_not_le h]

/-- A loop that has ended takes nothing more. -/
theorem run_stopped {loop : ControlLoop σ} (h : loop.stopped = true) (commands : List Polled) :
    run service.receive loop commands = loop := by
  induction commands with
  | nil => rfl
  | cons polled commands ih =>
    rw [run_cons, receive, h, if_pos rfl]
    exact ih

/-- Commands that can all be answered are answered one after the other. -/
theorem run_answered (keeps : service.KeepsRequestId) {commands : List Polled}
    (all : ∀ polled ∈ commands, IsCommand polled.envelope) {loop : ControlLoop σ}
    (running : loop.stopped = false) (answerable : Along service.receive service.Answerable loop
      commands) :
    (run service.receive loop commands).stopped = false ∧ ∃ messages,
      written (run service.receive loop commands).sent = written loop.sent ++ messages ∧
      List.Forall₂ (fun polled message => service.Answers polled.envelope message) commands
        messages := by
  induction commands generalizing loop with
  | nil => exact ⟨running, [], (List.append_nil _).symm, List.Forall₂.nil⟩
  | cons polled commands ih =>
    obtain ⟨command, all⟩ := List.forall_mem_cons.mp all
    rcases receive_cases keeps running command with ⟨-, message, hsent, hrunning, hfits, hanswers⟩ | h
    · obtain ⟨hend, messages, hwritten, hall⟩ := ih all hrunning answerable.2
      refine ⟨hend, message :: messages, ?_, List.Forall₂.cons hanswers hall⟩
      rw [run_cons, hwritten, hsent, written_append, written_fitting hfits, List.append_assoc,
        List.singleton_append]
    · exact absurd answerable.1 h.1

/-- A run that does not end writes at most one message for each command, and as many only where all
commands can be answered. -/
theorem run_bound (keeps : service.KeepsRequestId) {commands : List Polled}
    (all : ∀ polled ∈ commands, IsCommand polled.envelope) {loop : ControlLoop σ}
    (running : (run service.receive loop commands).stopped = false) :
    (written (run service.receive loop commands).sent).length ≤
        (written loop.sent).length + commands.length ∧
      ((written (run service.receive loop commands).sent).length =
          (written loop.sent).length + commands.length →
        Along service.receive service.Answerable loop commands) := by
  induction commands generalizing loop with
  | nil => exact ⟨le_rfl, fun _ => trivial⟩
  | cons polled commands ih =>
    obtain ⟨command, all⟩ := List.forall_mem_cons.mp all
    have before : loop.stopped = false := by
      by_contra hstopped
      rw [run_stopped (Bool.not_eq_false _ ▸ hstopped)] at running
      exact hstopped running
    rw [run_cons] at running ⊢
    obtain ⟨hbound, hequal⟩ := ih all running
    rw [List.length_cons]
    rcases receive_cases keeps before command with
      ⟨hanswerable, message, hsent, -, hfits, -⟩ | ⟨-, hstopped | ⟨message, hsent, hlong⟩⟩
    · rw [hsent, written_append, written_fitting hfits, List.length_append,
        List.length_singleton] at hbound hequal
      refine ⟨by omega, fun hlength => ⟨hanswerable, hequal (by omega)⟩⟩
    · rw [run_stopped hstopped, hstopped] at running
      cases running
    · rw [hsent, written_append, written_long hlong, List.append_nil] at hbound hequal
      exact ⟨by omega, fun hlength => by omega⟩

end Commands

/-- The control loop of a connection that has just been made. -/
def freshLoop (handlers : σ) : ControlLoop σ := ⟨handlers, [], false, false⟩

end CommandService

open CommandService in
/-- For every sequence of commands, the loop goes on and the control stream has one answer for each
of them, in order, exactly when each of them can be answered in its turn. -/
theorem commands_answered_iff {σ : Type*} (service : CommandService σ)
    (keeps : service.KeepsRequestId) (handlers : σ) (commands : List Polled)
    (all : ∀ polled ∈ commands, IsCommand polled.envelope) :
    let loop := run service.receive (freshLoop handlers) commands
    phoneWriter loop.sent = (written loop.sent).flatMap frame ∧
    ((loop.stopped = false ∧ List.Forall₂ (fun polled message =>
        service.Answers polled.envelope message) commands (written loop.sent)) ↔
      Along service.receive service.Answerable (freshLoop handlers) commands) := by
  refine ⟨phoneWriter_written _, ?_, ?_⟩
  · rintro ⟨running, answered⟩
    refine (run_bound keeps all running).2 ?_
    rw [← answered.length_eq]
    exact (Nat.zero_add _).symm
  · intro answerable
    obtain ⟨running, messages, hwritten, answered⟩ := run_answered keeps all rfl answerable
    refine ⟨running, ?_⟩
    rw [hwritten]
    exact answered

section

/-- The sandbox of an app, by the directory that it is. -/
def appSandbox : SandboxPaths where
  root := "/data/files"
  canonical := fun rawPath => .ok (if rawPath = "." then "/data/files" else "/data/files/" ++ rawPath)
  name := id
  relative := id
  decode := fun _ => ""
  readFails := fun _ => none
  writeFails := fun _ => none
  mkdirFails := fun _ => false

def appFiles : SandboxFiles := fun file => if file = "/data/files" then some .directory else none

/-- A service whose other handlers do nothing. -/
def fileService : CommandService SandboxFiles where
  toString := fun _ => ""
  toInt := fun _ => 0
  print := fun _ => utf8Bytes "\x7b\x7d"
  handle := fun handler context files =>
    match handler with
    | .fileSandbox => FileSandboxFeatureHandler.handle appSandbox context files
    | _ => (.ok (.success context.requestId []), files)
  connectedDeviceId := none
  defaultDeviceId := "phone"
  certificateFingerprintSha256 := none

def writeCommand (path : String) : Polled :=
  ⟨⟨companionProtocol, companionProtocolVersion, "m1", none, none, .control, .commandRequest,
    .object [("requestId", .string "r1"), ("capabilityId", .string "android.file.write"),
      ("operation", .string "file.write"),
      ("args", .object [("path", .string path), ("text", .string "hello")])]⟩,
    ⟨fun _ => true, true, true⟩, 0⟩

theorem writeCommand_command (path : String) : CommandService.IsCommand (writeCommand path).envelope :=
  ⟨rfl, rfl, rfl, rfl⟩

theorem fileService_keeps : fileService.KeepsRequestId := by
  intro handler context files result h
  cases handler
  case fileSandbox => exact FileSandboxFeatureHandler.handle_requestId h
  all_goals
    cases h
    rfl

open CommandService in
theorem commands_answered_iff_write :
    let loop := run fileService.receive (freshLoop appFiles) [writeCommand "note.txt"]
    (loop.stopped = false ∧ List.Forall₂ (fun polled message =>
        fileService.Answers polled.envelope message) [writeCommand "note.txt"] (written loop.sent)) ↔
      Along fileService.receive fileService.Answerable (freshLoop appFiles)
        [writeCommand "note.txt"] := by
  refine (commands_answered_iff fileService fileService_keeps appFiles _ ?_).2
  rw [List.forall_mem_singleton]
  exact writeCommand_command "note.txt"

open CommandService in
/-- A text for the root of the sandbox, a directory, ends the control loop without an answer. -/
theorem write_root_ends_loop :
    IsCommand (writeCommand ".").envelope ∧
      (run fileService.receive (freshLoop appFiles) [writeCommand "."]).stopped = true ∧
      written (run fileService.receive (freshLoop appFiles) [writeCommand "."]).sent = [] := by
  refine ⟨writeCommand_command ".", ?_, ?_⟩
  · decide
  · decide

end

end AdbControl.Companion
