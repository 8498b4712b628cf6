import AdbControl.Framework.Text
import AdbControl.Error

namespace AdbControl.Companion

open Framework

def companionProtocol : String := "adbcontrol-companion-quic"
def companionProtocolVersion : UInt16 := 1

inductive QuicChannel
  | control | data | media
  deriving DecidableEq, Repr

inductive QuicMessageKind
  | hello | helloAck | heartbeat | capabilityList | permissionState | commandRequest
  | commandResponse | streamOpen | streamChunk | streamClose | error
  deriving DecidableEq, Repr

namespace QuicMessageKind

/-- The camel-case name on the wire. -/
def name : QuicMessageKind → String
  | hello => "hello"
  | helloAck => "helloAck"
  | heartbeat => "heartbeat"
  | capabilityList => "capabilityList"
  | permissionState => "permissionState"
  | commandRequest => "commandRequest"
  | commandResponse => "commandResponse"
  | streamOpen => "streamOpen"
  | streamChunk => "streamChunk"
  | streamClose => "streamClose"
  | error => "error"

/-- The name that `{:?}` prints. -/
def debug (kind : QuicMessageKind) : String :=
  match kind.name.toList with
  | [] => ""
  | c :: cs => String.ofList (c.toUpper :: cs)

end QuicMessageKind

structure QuicEnvelope where
  protocol : String
  version : UInt16
  messageId : String
  traceId : Option String
  deviceId : Option String
  channel : QuicChannel
  kind : QuicMessageKind
  payload : Value
  deriving Repr

structure CompanionHello where
  appVersion : String
  deviceId : String
  deviceName : String
  androidSdk : UInt32
  supportedProtocolVersions : List UInt16
  deriving DecidableEq, Repr

def CompanionHello.ofJson (v : Value) : Option CompanionHello := do
  let [appVersion, deviceId, deviceName, androidSdk, versions] ← v.structFields
    ["appVersion", "deviceId", "deviceName", "androidSdk", "supportedProtocolVersions"] | none
  let appVersion ← appVersion.bind Value.asStr
  let deviceId ← deviceId.bind Value.asStr
  let deviceName ← deviceName.bind Value.asStr
  let androidSdk ← androidSdk.bind (Value.asUnsigned 32)
  let versions ← (versions.bind Value.asArray).bind (·.mapM (Value.asUnsigned 16))
  some ⟨appVersion, deviceId, deviceName, UInt32.ofNat androidSdk, versions.map UInt16.ofNat⟩

def validateQuicEnvelope (envelope : QuicEnvelope) : Except AppError Unit :=
  if envelope.protocol ≠ companionProtocol then
    .error ⟨"COMPANION_PROTOCOL_MISMATCH",
      "Companion QUIC envelope protocol does not match ADBControl.", "companion.protocol", false,
      none⟩
  else if envelope.version ≠ companionProtocolVersion then
    .error ⟨"COMPANION_PROTOCOL_VERSION_UNSUPPORTED",
      "Unsupported companion protocol version: " ++ toString envelope.version ++ ".",
      "companion.protocol", false, none⟩
  else if isBlank envelope.messageId then
    .error ⟨"COMPANION_MESSAGE_ID_MISSING",
      "Companion QUIC envelope messageId must not be empty.", "companion.protocol", false, none⟩
  else .ok ()

/-- A control-channel envelope of Core's own protocol version. -/
def coreEnvelope (messageId : String) (traceId deviceId : Option String) (kind : QuicMessageKind)
    (payload : Value) : QuicEnvelope :=
  ⟨companionProtocol, companionProtocolVersion, messageId, traceId, deviceId, .control, kind,
    payload⟩

theorem coreEnvelope_valid {messageId : String} (traceId deviceId : Option String)
    (kind : QuicMessageKind) (payload : Value) (h : isBlank messageId = false) :
    validateQuicEnvelope (coreEnvelope messageId traceId deviceId kind payload) = .ok () := by
  simp [validateQuicEnvelope, coreEnvelope, h]

end AdbControl.Companion
