import AdbControl.Companion.Session

namespace AdbControl.Companion

open Framework

/-- The ingress as the live transport builds it, without a media store. -/
structure CompanionIngress where
  sessionManager : CompanionSessionManager
  mediaChunkCount : Nat

def ackEnvelope (traceId deviceId : Option String) (sourceMessageId : String) (payload : Value) :
    QuicEnvelope :=
  coreEnvelope ("ingress-ack-" ++ sourceMessageId) traceId deviceId .commandResponse payload

def errorEnvelope (traceId deviceId sourceMessageId : Option String) (error : AppError) :
    QuicEnvelope :=
  coreEnvelope ((sourceMessageId.map ("ingress-error-" ++ ·)).getD "ingress-error") traceId deviceId
    .error (.object [("errorCode", .string error.errorCode), ("message", .string error.message),
      ("module", .string error.module), ("recoverable", .bool error.recoverable),
      ("suggestion", (error.suggestion.map Value.string).getD .null)])

namespace CompanionIngress

def new (sessionManager : CompanionSessionManager) : CompanionIngress := ⟨sessionManager, 0⟩

def handleMediaEnvelope (i : CompanionIngress) (envelope : QuicEnvelope) :
    CompanionIngress × Except AppError QuicEnvelope :=
  if envelope.channel ≠ .media then
    (i, .error ⟨"COMPANION_MEDIA_CHANNEL_INVALID",
      "Media stream messages must use the media channel.", "companion.ingress", false, none⟩)
  else
    let count := if envelope.kind = .streamChunk then i.mediaChunkCount + 1 else i.mediaChunkCount
    ({ i with mediaChunkCount := count },
      .ok (ackEnvelope envelope.traceId envelope.deviceId envelope.messageId (.object
        [("accepted", .bool true), ("media", .bool true),
          ("receivedKind", .string envelope.kind.name),
          ("receivedChunkCount", .number (.posInt count))])))

def ackTerminalResponse (envelope : QuicEnvelope) : QuicEnvelope :=
  ackEnvelope envelope.traceId envelope.deviceId envelope.messageId (.object
    [("accepted", .bool true), ("terminalResponse", .bool true),
      ("receivedKind", .string envelope.kind.name)])

def dispatchEnvelope (i : CompanionIngress) (envelope : QuicEnvelope) :
    CompanionIngress × Except AppError QuicEnvelope :=
  match validateQuicEnvelope envelope with
  | .error e => (i, .error e)
  | .ok () =>
    match envelope.kind with
    | .hello | .capabilityList | .permissionState | .heartbeat =>
      let handled := i.sessionManager.handleEnvelope envelope
      ({ i with sessionManager := handled.1 }, handled.2)
    | .streamOpen | .streamChunk | .streamClose => i.handleMediaEnvelope envelope
    | .commandResponse | .error => (i, .ok (ackTerminalResponse envelope))
    | .helloAck | .commandRequest =>
      (i, .error ⟨"COMPANION_INGRESS_MESSAGE_UNSUPPORTED",
        "Core ingress received a message kind that is only valid in the opposite direction.",
        "companion.ingress", false, none⟩)

/-- A refused envelope is answered too, with an error envelope. -/
def handleEnvelope (i : CompanionIngress) (envelope : QuicEnvelope) :
    CompanionIngress × QuicEnvelope :=
  let handled := i.dispatchEnvelope envelope
  match handled.2 with
  | .ok response => (handled.1, response)
  | .error e =>
    (handled.1, errorEnvelope envelope.traceId envelope.deviceId (some envelope.messageId) e)

variable {envelope : QuicEnvelope}

theorem handleEnvelope_ingress (i : CompanionIngress) (envelope : QuicEnvelope) :
    (i.handleEnvelope envelope).1 = (i.dispatchEnvelope envelope).1 := by
  simp only [handleEnvelope]
  split <;> rfl

/-- Whatever the ingress does with an envelope, its sessions change as the session manager alone
changes them: it refuses the kinds that it never sees. -/
theorem handleEnvelope_sessions (i : CompanionIngress)
    (hvalid : validateQuicEnvelope envelope = .ok ()) :
    (i.handleEnvelope envelope).1.sessionManager = (i.sessionManager.handleEnvelope envelope).1 := by
  rw [handleEnvelope_ingress]
  cases hkind : envelope.kind with
  | hello | capabilityList | permissionState | heartbeat => simp [dispatchEnvelope, hvalid, hkind]
  | streamOpen | streamChunk | streamClose =>
    simp only [dispatchEnvelope, hvalid, hkind, handleMediaEnvelope,
      CompanionSessionManager.handleEnvelope]
    split <;> rfl
  | _ => simp [dispatchEnvelope, hvalid, hkind, CompanionSessionManager.handleEnvelope]

end CompanionIngress

end AdbControl.Companion
