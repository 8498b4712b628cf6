import AdbControl.Companion.EnvelopeRoundTrip
import AdbControl.Companion.MediaAccounting
import AdbControl.Companion.TrustedIngress
import AdbControl.Framework.Base64

namespace AdbControl.Companion

open Framework

/-- Base64 on both sides: the encoder of the phone, on one line, and the decoder of Core reads what it
writes. -/
structure Base64Codecs where
  encodeToString : List UInt8 → String
  decode : String → Option (List UInt8)
  decode_encodeToString : ∀ bytes, decode (encodeToString bytes) = some bytes

def Base64Codecs.standard : Base64Codecs where
  encodeToString bytes := String.ofList (Base64.encode bytes)
  decode text := Base64.decode text.toList
  decode_encodeToString bytes := by rw [String.toList_ofList, Base64.decode_encode]

/-- A byte array of Kotlin, whose size is an `Int` -/
abbrev PhoneBytes := {bytes : List UInt8 // bytes.length < 2^31}

/-- The sink of a connection: what it sends names the device and its certificate. -/
structure QuicMediaStreamSink where
  deviceId : Option String
  certificateFingerprintSha256 : Option String

namespace QuicMediaStreamSink

def trustPayload (sink : QuicMediaStreamSink) (payload : Args) : Args :=
  match sink.certificateFingerprintSha256 with
  | none => payload
  | some fingerprint => payload ++ [("certificateFingerprintSha256", .string fingerprint)]

def envelope (sink : QuicMediaStreamSink) (uuid sessionId : String) (kind : QuicMessageKind)
    (payload : Args) : PhoneEnvelope :=
  { messageId := "media-" ++ uuid, traceId := some sessionId, deviceId := sink.deviceId,
    channel := .media, kind := kind, payload := payload }

def onStreamStarted (sink : QuicMediaStreamSink) (uuid sessionId mimeType : String) (metadata : Args) :
    PhoneEnvelope :=
  sink.envelope uuid sessionId .streamOpen (sink.trustPayload [("sessionId", .string sessionId),
    ("mimeType", .string mimeType), ("metadata", .map metadata)])

def sendChunk (base64 : Base64Codecs) (sink : QuicMediaStreamSink) (uuid sessionId chunkType : String)
    (data : PhoneBytes) (metadata : Args) : PhoneEnvelope :=
  sink.envelope uuid sessionId .streamChunk (sink.trustPayload [("sessionId", .string sessionId),
    ("chunkType", .string chunkType), ("encoding", .string "base64"),
    ("data", .string (base64.encodeToString data)), ("sizeBytes", .number (.posInt data.1.length)),
    ("metadata", .map metadata)])

def onConfig (base64 : Base64Codecs) (sink : QuicMediaStreamSink) (uuid sessionId : String)
    (config : PhoneBytes) (metadata : Args) : PhoneEnvelope :=
  sink.sendChunk base64 uuid sessionId "config" config metadata

def onChunk (base64 : Base64Codecs) (sink : QuicMediaStreamSink) (uuid sessionId : String)
    (chunk : PhoneBytes) (metadata : Args) : PhoneEnvelope :=
  sink.sendChunk base64 uuid sessionId "media" chunk metadata

def onStreamStopped (sink : QuicMediaStreamSink) (uuid sessionId : String) (metadata : Args) :
    PhoneEnvelope :=
  sink.envelope uuid sessionId .streamClose (sink.trustPayload [("sessionId", .string sessionId),
    ("metadata", .map metadata)])

end QuicMediaStreamSink

/-- A call of the encoders on the sink -/
inductive StreamCall
  | onStreamStarted (sessionId mimeType : String) (metadata : Args)
  | onConfig (sessionId : String) (config : PhoneBytes) (metadata : Args)
  | onChunk (sessionId : String) (chunk : PhoneBytes) (metadata : Args)
  | onStreamStopped (sessionId : String) (metadata : Args)

namespace StreamCall

def sessionId : StreamCall → String
  | onStreamStarted sessionId _ _ | onConfig sessionId _ _ | onChunk sessionId _ _
  | onStreamStopped sessionId _ => sessionId

def metadata : StreamCall → Args
  | onStreamStarted _ _ metadata | onConfig _ _ metadata | onChunk _ _ metadata
  | onStreamStopped _ metadata => metadata

/-- The bytes that the call hands over for its session -/
def data? : StreamCall → Option (String × List UInt8)
  | onConfig sessionId bytes _ | onChunk sessionId bytes _ => some (sessionId, bytes)
  | _ => none

def kind : StreamCall → QuicMessageKind
  | onStreamStarted .. => .streamOpen
  | onConfig .. | onChunk .. => .streamChunk
  | onStreamStopped .. => .streamClose

theorem kind_eq_streamChunk (call : StreamCall) : call.kind = .streamChunk ↔ call.data?.isSome = true := by
  cases call <;> simp [kind, data?]

end StreamCall

/-- A call on the sink of one of the phones, with the identifier that its message takes -/
structure SinkMessage where
  sink : QuicMediaStreamSink
  uuid : String
  call : StreamCall

namespace SinkMessage

variable (codecs : JsonCodecs) (base64 : Base64Codecs)

def envelope (m : SinkMessage) : PhoneEnvelope :=
  match m.call with
  | .onStreamStarted sessionId mimeType metadata =>
    m.sink.onStreamStarted m.uuid sessionId mimeType metadata
  | .onConfig sessionId config metadata => m.sink.onConfig base64 m.uuid sessionId config metadata
  | .onChunk sessionId chunk metadata => m.sink.onChunk base64 m.uuid sessionId chunk metadata
  | .onStreamStopped sessionId metadata => m.sink.onStreamStopped m.uuid sessionId metadata

/-- The text that the transport sends for the call -/
def text (m : SinkMessage) : String := codecs.encodeEnvelope (m.envelope base64)

/-- The metadata of the call is JSON that the codecs carry. -/
def Carried (m : SinkMessage) : Prop :=
  (QuicJsonCodec.toJsonValue codecs.texts (.map m.call.metadata)).Good codecs.carried

/-- What Core reads of a message: its fields as they were, its session, its certificate, and the bytes
that the call handed over. -/
structure ReadAs (m : SinkMessage) (e : QuicEnvelope) : Prop where
  valid : validateQuicEnvelope e = .ok ()
  channel : e.channel = .media
  kind : e.kind = m.call.kind
  device : e.deviceId = m.sink.deviceId
  fingerprint : TrustedCompanionIngress.fingerprintOf e = m.sink.certificateFingerprintSha256
  chunk : mediaChunk base64.decode e = .ok m.call.data?

variable {codecs base64}

theorem isBlank_media (uuid : String) : isBlank ("media-" ++ uuid) = false := by
  rw [Bool.eq_false_iff, ne_eq, isBlank_iff]
  intro h
  exact absurd (h 'm' (by simp)) (by decide)

/-- The members of a payload: the fingerprint where the sink has one, and for a chunk its session, the
encoding and the encoded bytes. -/
structure Shows (m : SinkMessage) (base64 : Base64Codecs) (members : List (String × Value)) : Prop where
  fingerprint : members.lookup "certificateFingerprintSha256" =
    m.sink.certificateFingerprintSha256.map Value.string
  chunk : ∀ data ∈ m.call.data?, members.lookup "sessionId" = some (.string data.1) ∧
    members.lookup "encoding" = some (.string "base64") ∧
    members.lookup "data" = some (.string (base64.encodeToString data.2))

theorem payload_shows (m : SinkMessage) :
    m.Shows base64 (QuicJsonCodec.toJsonMembers codecs.texts (m.envelope base64).payload) := by
  obtain ⟨⟨deviceId, fingerprint⟩, uuid, call⟩ := m
  refine ⟨?_, ?_⟩
  · cases call <;> cases fingerprint <;> rfl
  · intro data hdata
    cases call with
    | onStreamStarted sessionId mimeType metadata => cases hdata
    | onConfig sessionId bytes metadata | onChunk sessionId bytes metadata =>
      cases hdata
      cases fingerprint <;> exact ⟨rfl, rfl, rfl⟩
    | onStreamStopped sessionId metadata => cases hdata

theorem payload_good {m : SinkMessage} (h : m.Carried codecs) :
    (Value.object (QuicJsonCodec.toJsonMembers codecs.texts (m.envelope base64).payload)).Good
      codecs.carried := by
  obtain ⟨⟨deviceId, fingerprint⟩, uuid, call⟩ := m
  have size (bytes : PhoneBytes) : codecs.carried (.posInt bytes.1.length) :=
    codecs.carried_posInt _ (by
      have := bytes.2
      omega)
  cases call with
  | onStreamStarted sessionId mimeType metadata =>
    have keys : ["sessionId", "mimeType", "metadata", "certificateFingerprintSha256"].Nodup := by decide
    cases fingerprint with
    | none => exact ⟨keys.sublist (List.sublist_append_left _ _), trivial, trivial, h, trivial⟩
    | some fingerprint => exact ⟨keys, trivial, trivial, h, trivial, trivial⟩
  | onConfig sessionId bytes metadata | onChunk sessionId bytes metadata =>
    have keys : ["sessionId", "chunkType", "encoding", "data", "sizeBytes", "metadata",
      "certificateFingerprintSha256"].Nodup := by decide
    cases fingerprint with
    | none =>
      exact ⟨keys.sublist (List.sublist_append_left _ ["certificateFingerprintSha256"]), trivial, trivial, trivial, trivial, size bytes,
        h, trivial⟩
    | some fingerprint =>
      exact ⟨keys, trivial, trivial, trivial, trivial, size bytes, h, trivial, trivial⟩
  | onStreamStopped sessionId metadata =>
    have keys : ["sessionId", "metadata", "certificateFingerprintSha256"].Nodup := by decide
    cases fingerprint with
    | none => exact ⟨keys.sublist (List.sublist_append_left _ _), trivial, h, trivial⟩
    | some fingerprint => exact ⟨keys, trivial, h, trivial, trivial⟩

/-- Core reads every message of a sink. -/
theorem deserialize_text {m : SinkMessage} (h : m.Carried codecs) :
    ∃ e, codecs.deserialize (m.text codecs base64) = some e ∧ m.ReadAs base64 e := by
  have fields : m.envelope base64 = m.sink.envelope m.uuid m.call.sessionId m.call.kind
      (m.envelope base64).payload := by
    obtain ⟨sink, uuid, call⟩ := m
    cases call <;> rfl
  have shows := @payload_shows codecs base64 m
  have good := @payload_good codecs base64 m h
  generalize (m.envelope base64).payload = payload at fields shows good
  have same : m.text codecs base64 = codecs.orgToString (QuicEnvelope.toJson ⟨companionProtocol, 1,
      "media-" ++ m.uuid, some m.call.sessionId, m.sink.deviceId, .media, m.call.kind,
      .object (QuicJsonCodec.toJsonMembers codecs.texts payload)⟩) := by
    have version : (m.sink.envelope m.uuid m.call.sessionId m.call.kind payload).version = 1 := rfl
    rw [text, JsonCodecs.encodeEnvelope, fields, encodeEnvelope_eq_toJson _ (by omega) (by omega)]
    rfl
  obtain ⟨payload', hread, halike⟩ := @JsonCodecs.deserialize_toJson codecs ⟨companionProtocol, 1,
    "media-" ++ m.uuid, some m.call.sessionId, m.sink.deviceId, .media, m.call.kind, _⟩ good
  obtain ⟨members, rfl⟩ := halike.exists_object
  have string {key s : String} (hlookup : (QuicJsonCodec.toJsonMembers codecs.texts payload).lookup key =
      some (.string s)) : members.lookup key = some (.string s) := by
    obtain ⟨v, hv, hsame⟩ := halike.lookup hlookup
    rw [hv, hsame.eq_string]
  refine ⟨_, by rw [same, hread], ?_⟩
  exact {
    valid := by simp [validateQuicEnvelope, companionProtocolVersion, isBlank_media]
    channel := rfl
    kind := rfl
    device := rfl
    fingerprint := by
      have hfingerprint := shows.fingerprint
      cases hsink : m.sink.certificateFingerprintSha256 with
      | none =>
        rw [hsink] at hfingerprint
        simp only [TrustedCompanionIngress.fingerprintOf, Value.get?, halike.lookup_none hfingerprint]
        rfl
      | some fingerprint =>
        rw [hsink] at hfingerprint
        simp only [TrustedCompanionIngress.fingerprintOf, Value.get?, string hfingerprint]
        rfl
    chunk := by
      cases hdata : m.call.data? with
      | none =>
        have other : m.call.kind ≠ .streamChunk := by simp [m.call.kind_eq_streamChunk, hdata]
        rw [mediaChunk, if_pos other]
      | some data =>
        obtain ⟨sessionId, bytes⟩ := data
        have hkind : m.call.kind = .streamChunk := by simp [m.call.kind_eq_streamChunk, hdata]
        obtain ⟨hsession, hencoding, hbytes⟩ := shows.chunk _ hdata
        rw [StoringIngress.mediaChunk_some hkind]
        exact ⟨_, string hsession, string hencoding, string hbytes, base64.decode_encodeToString bytes⟩ }

end SinkMessage

end AdbControl.Companion
