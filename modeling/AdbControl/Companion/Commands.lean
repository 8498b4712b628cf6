import AdbControl.Companion.LiveRegistry

namespace AdbControl.Companion

open Framework

structure CompanionCommandDispatch where
  requestId : String
  deviceId : String
  capabilityId : String
  operation : String
  args : Value

/-- The request id of an IPC caller goes through to the companion unchanged. -/
def buildCommandRequestEnvelope (command : CompanionCommandDispatch) : QuicEnvelope :=
  coreEnvelope ("command-" ++ command.requestId) (some command.requestId) (some command.deviceId)
    .commandRequest (.object [("requestId", .string command.requestId),
      ("capabilityId", .string command.capabilityId), ("operation", .string command.operation),
      ("args", command.args)])

/-- The key under which a caller waits for the answer to its envelope. -/
def QuicEnvelope.requestId (envelope : QuicEnvelope) : String :=
  ((envelope.payload.get? "requestId").bind Value.asStr).getD envelope.messageId

def sessionNotConnected (deviceId : String) : AppError :=
  ⟨"COMPANION_SESSION_NOT_CONNECTED",
    "Android companion QUIC session is not connected for device " ++ deviceId ++ ".",
    "companion.quinn", true, none⟩

def commandSendFailed : AppError :=
  ⟨"COMPANION_COMMAND_SEND_FAILED",
    "Companion QUIC control stream closed before the command was sent.", "companion.quinn", true,
    none⟩

def commandTimeout : AppError :=
  ⟨"COMPANION_COMMAND_TIMEOUT",
    "Companion did not return a QUIC command response within 15 seconds.", "companion.quinn", true,
    none⟩

/-- What a caller makes of its response. -/
def commandResult (response : QuicEnvelope) : Except AppError Value :=
  if response.kind = .error ∨ (response.payload.get? "ok").bind Value.asBool = some false then
    let detail := (response.payload.get? "error").getD response.payload
    let text (key fallback : String) := ((detail.get? key).bind Value.asStr).getD fallback
    .error ⟨text "errorCode" "COMPANION_COMMAND_FAILED",
      text "message" "Android companion command failed.", text "module" "companion.command",
      ((detail.get? "recoverable").bind Value.asBool).getD true, none⟩
  else .ok response.payload

/-- How far a call of `send_command_envelope` has come: the session handle is cloned, the waiter
is registered, the command is handed over and the response awaited, the send or the wait has
failed and the waiter is still to be removed, the result is returned. -/
inductive Phase
  | lookedUp (handle : SessionHandle)
  | registered (handle : SessionHandle)
  | waiting
  | sendFailed
  | timedOut
  | returned (result : Except AppError Value)
  | gaveUp

/-- The call's result; giving up returns the timeout error. -/
def Phase.result : Phase → Option (Except AppError Value)
  | returned result => some result
  | gaveUp => some (.error commandTimeout)
  | _ => none

/-- One call, with the one-place buffer of its response channel. -/
structure Call where
  deviceId : String
  envelope : QuicEnvelope
  phase : Phase
  inbox : Option QuicEnvelope

/-- What a caller's thread does next. -/
inductive CallStep
  | register
  | send (closed : Bool)
  | receive
  | timeout
  | cleanUp

inductive PendingChange
  | keep | insert | remove

namespace Call

def requestId (call : Call) : String := call.envelope.requestId

/-- A call after its session lookup. -/
def start (session : Option SessionHandle) (deviceId : String) (envelope : QuicEnvelope) : Call :=
  match session with
  | none => ⟨deviceId, envelope, .returned (.error (sessionNotConnected deviceId)), none⟩
  | some handle => ⟨deviceId, envelope, .lookedUp handle, none⟩

/-- The next phase, if the step is enabled. `held` says that the call's sender is still in the
pending map: without it an empty channel is disconnected, and the wait ends at once. -/
def next (call : Call) (held : Bool) : CallStep → Option (Phase × PendingChange)
  | .register =>
    match call.phase with
    | .lookedUp handle => some (.registered handle, .insert)
    | _ => none
  | .send closed =>
    match call.phase with
    | .registered _ => some (if closed then .sendFailed else .waiting, .keep)
    | _ => none
  | .receive =>
    match call.phase, call.inbox with
    | .waiting, some response => some (.returned (commandResult response), .keep)
    | .waiting, none => if held then none else some (.timedOut, .keep)
    | _, _ => none
  | .timeout =>
    match call.phase, call.inbox with
    | .waiting, none => some (.timedOut, .keep)
    | _, _ => none
  | .cleanUp =>
    match call.phase with
    | .sendFailed => some (.returned (.error commandSendFailed), .remove)
    | .timedOut => some (.gaveUp, .remove)
    | _ => none

end Call

/-- The transport and all calls of `send_command_envelope`, by the number of the call. -/
structure Commands where
  live : LiveState
  calls : Keyed Nat Call

inductive Act
  | start (n : Nat) (deviceId : String) (envelope : QuicEnvelope)
  | call (n : Nat) (step : CallStep)
  | transport (op : LiveOp)

/-- The response envelope that a step of the transport takes in, and its connection. -/
def LiveOp.response : LiveOp → Option (UInt64 × QuicEnvelope)
  | accept connectionId _ _ envelope =>
    if (validateQuicEnvelope envelope).isOk ∧ envelope.isResponse then some (connectionId, envelope)
    else none
  | _ => none

def LiveOp.delivered (s : LiveState) : LiveOp → Option (Nat × QuicEnvelope)
  | accept connectionId outgoing closed envelope =>
    (s.acceptEnvelope connectionId outgoing closed envelope).delivered
  | _ => none

def PendingChange.apply (pending : Keyed String Nat) (requestId : String) (n : Nat) :
    PendingChange → Keyed String Nat
  | keep => pending
  | insert => pending.insert requestId n
  | remove => pending.erase requestId

namespace Commands

def start : Commands := ⟨.start, ∅⟩

/-- A response goes into the buffer of the call that is handed it. -/
def deliver (calls : Keyed Nat Call) : Option (Nat × QuicEnvelope) → Keyed Nat Call
  | none => calls
  | some (n, response) =>
    match calls[n]? with
    | none => calls
    | some call => calls.insert n { call with inbox := some response }

/-- One step of the whole: a new call looks up its session, a caller's thread goes on, or a
connection calls the transport. A step that is not enabled changes nothing. -/
def step (s : Commands) : Act → Commands
  | .start n deviceId envelope =>
    if n ∈ s.calls then s
    else { s with calls := s.calls.insert n (.start s.live.sessions[deviceId]? deviceId envelope) }
  | .call n step =>
    match s.calls[n]? with
    | none => s
    | some call =>
      match call.next (s.live.pending[call.requestId]? == some n) step with
      | none => s
      | some (phase, change) =>
        ⟨{ s.live with pending := change.apply s.live.pending call.requestId n },
          s.calls.insert n { call with phase }⟩
  | .transport op => ⟨op.step s.live, deliver s.calls (op.delivered s.live)⟩

end Commands

end AdbControl.Companion
