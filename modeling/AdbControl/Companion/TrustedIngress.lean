import AdbControl.Companion.Ingress
import AdbControl.Companion.MediaStore
import AdbControl.Companion.SessionInvariants
import AdbControl.Companion.TrustHistory

namespace AdbControl.Companion

open Framework

/-- The trust gate around an ingress that keeps its media; trust store and time are fixed when it
is made. -/
structure TrustedCompanionIngress where
  ingress : CompanionIngress
  mediaStore : CompanionMediaStore
  media : MediaFs
  trustStore : CompanionTrustStore
  nowUnixMs : UInt64

/-- The acknowledgement's payload, with what was stored. -/
def withStored (payload : Value) (stored : StoredMediaChunk) : Value :=
  ((((payload.set "stored" (.bool true)).set "storedSessionId" (.string stored.sessionId)).set
    "storedChunkIndex" (.number (.posInt stored.chunkIndex))).set
    "storedSizeBytes" (.number (.posInt stored.sizeBytes))).set "storedPath" (.string stored.path)

namespace TrustedCompanionIngress

def new (trustStore : CompanionTrustStore) (mediaRoot : String) (nowUnixMs : UInt64) :
    TrustedCompanionIngress :=
  ⟨CompanionIngress.new .default, ⟨mediaRoot⟩, .empty, trustStore, nowUnixMs⟩

section

variable (decodeBase64 : String → Option (List UInt8))

def handleMediaEnvelope (t : TrustedCompanionIngress) (envelope : QuicEnvelope) :
    TrustedCompanionIngress × Except AppError QuicEnvelope :=
  let handled := t.ingress.handleMediaEnvelope envelope
  match handled.2 with
  | .error e => ({ t with ingress := handled.1 }, .error e)
  | .ok ack =>
    if envelope.kind = .streamChunk then
      let stored := t.mediaStore.storeEnvelope decodeBase64 t.media envelope
      let t' := { t with ingress := handled.1, media := stored.1 }
      match stored.2 with
      | .error e => (t', .error e)
      | .ok none => (t', .ok ack)
      | .ok (some chunk) => (t', .ok { ack with payload := withStored ack.payload chunk })
    else ({ t with ingress := handled.1 }, .ok ack)

/-- The dispatch of an ingress with a media store: only media messages see it. -/
def dispatchEnvelope (t : TrustedCompanionIngress) (envelope : QuicEnvelope) :
    TrustedCompanionIngress × Except AppError QuicEnvelope :=
  match validateQuicEnvelope envelope with
  | .error e => (t, .error e)
  | .ok () =>
    match envelope.kind with
    | .streamOpen | .streamChunk | .streamClose => t.handleMediaEnvelope decodeBase64 envelope
    | _ =>
      let handled := t.ingress.dispatchEnvelope envelope
      ({ t with ingress := handled.1 }, handled.2)

def fingerprintOf (envelope : QuicEnvelope) : Option String :=
  (envelope.payload.get? "certificateFingerprintSha256").bind Value.asStr

variable (toLowercase : Char → List Char)

/-- A hello passes; any other message must come from a trusted device. -/
def enforceTrust (t : TrustedCompanionIngress) (envelope : QuicEnvelope) : Except AppError Unit :=
  if envelope.kind = .hello then .ok ()
  else
    match envelope.deviceId with
    | none =>
      .error ⟨"COMPANION_TRUST_DEVICE_ID_MISSING",
        "Trusted companion messages require deviceId after hello.", "companion.trusted_ingress",
        false, none⟩
    | some deviceId =>
      match fingerprintOf envelope with
      | none =>
        .error ⟨"COMPANION_TRUST_FINGERPRINT_MISSING",
          "Trusted companion messages require certificateFingerprintSha256 in payload.",
          "companion.trusted_ingress", false, none⟩
      | some fingerprint =>
        if t.trustStore.isTrusted toLowercase deviceId fingerprint t.nowUnixMs then .ok ()
        else
          .error ⟨"COMPANION_DEVICE_NOT_TRUSTED",
            "Companion device is not trusted for this certificate fingerprint.",
            "companion.trusted_ingress", true, none⟩

/-- What passes the gate is answered in any case, a refusal behind it with an error envelope. -/
def handleEnvelope (t : TrustedCompanionIngress) (envelope : QuicEnvelope) :
    TrustedCompanionIngress × Except AppError QuicEnvelope :=
  match t.enforceTrust toLowercase envelope with
  | .error e => (t, .error e)
  | .ok () =>
    let handled := t.dispatchEnvelope decodeBase64 envelope
    match handled.2 with
    | .ok response => (handled.1, .ok response)
    | .error e =>
      (handled.1, .ok (errorEnvelope envelope.traceId envelope.deviceId (some envelope.messageId) e))

def step (t : TrustedCompanionIngress) (envelope : QuicEnvelope) : TrustedCompanionIngress :=
  (t.handleEnvelope decodeBase64 toLowercase envelope).1

/-- The payload carries no fingerprint that is trusted for the device the envelope names. -/
def Untrusted (t : TrustedCompanionIngress) (envelope : QuicEnvelope) : Prop :=
  ∀ deviceId fingerprint, namedDevice envelope = some deviceId →
    fingerprintOf envelope = some fingerprint →
    t.trustStore.isTrusted toLowercase deviceId fingerprint t.nowUnixMs = false

def session (t : TrustedCompanionIngress) (deviceId : String) : Option CompanionSession :=
  t.ingress.sessionManager.sessions[deviceId]?

variable {decodeBase64 toLowercase}

/-- The gate refuses every untrusted message but a hello. -/
theorem enforceTrust_untrusted {t : TrustedCompanionIngress} {envelope : QuicEnvelope}
    (h : t.Untrusted toLowercase envelope) (hkind : envelope.kind ≠ .hello) :
    ∃ e, t.enforceTrust toLowercase envelope = .error e := by
  simp only [enforceTrust, if_neg hkind]
  split
  · exact ⟨_, rfl⟩
  · next deviceId hdevice =>
    have named : namedDevice envelope = some deviceId := by
      rw [namedDevice, if_neg hkind, hdevice]
    split
    · exact ⟨_, rfl⟩
    · next fingerprint hfingerprint =>
      rw [h deviceId fingerprint named hfingerprint]
      exact ⟨_, rfl⟩

/-- A hello goes to the session manager and nowhere else. -/
theorem handleEnvelope_hello (t : TrustedCompanionIngress) {envelope : QuicEnvelope}
    (hkind : envelope.kind = .hello) :
    t.step decodeBase64 toLowercase envelope = { t with
      ingress := { t.ingress with
        sessionManager := (t.ingress.sessionManager.handleEnvelope envelope).1 } } := by
  have passes : t.enforceTrust toLowercase envelope = .ok () := by
    rw [enforceTrust, if_pos hkind]
  have dispatched : (t.dispatchEnvelope decodeBase64 envelope).1 = { t with
      ingress := { t.ingress with
        sessionManager := (t.ingress.sessionManager.handleEnvelope envelope).1 } } := by
    cases hvalid : validateQuicEnvelope envelope with
    | error e =>
      simp only [dispatchEnvelope, CompanionSessionManager.handleEnvelope, hvalid]
    | ok u =>
      simp only [dispatchEnvelope, CompanionIngress.dispatchEnvelope, hvalid, hkind]
  rw [← dispatched]
  simp only [step, handleEnvelope, passes]
  split <;> rfl

/-- A hello that is taken puts a fresh session in the place of the one its payload names. -/
theorem session_hello (m : CompanionSessionManager) {envelope : QuicEnvelope}
    (hkind : envelope.kind = .hello) (d : String) :
    (m.handleEnvelope envelope).1.sessions[d]? = m.sessions[d]? ∨
      namedDevice envelope = some d ∧ ∃ hello, checkHello envelope = .ok hello ∧
        (m.handleEnvelope envelope).1.sessions[d]? = some hello.toSession := by
  rcases m.handleEnvelope_spec envelope with ⟨e, he⟩ | ⟨-, -, htakes⟩
  · exact Or.inl (by rw [he])
  · generalize (m.handleEnvelope envelope).1 = m' at htakes ⊢
    cases htakes with
    | hello hello kind checked =>
      by_cases hd : d = hello.deviceId
      · refine Or.inr ⟨by rw [namedDevice_of_checkHello kind checked, hd], hello, checked, ?_⟩
        rw [Keyed.lookup_insert, if_pos hd]
      · exact Or.inl (by rw [Keyed.lookup_insert, if_neg hd])
    | capabilityList deviceId session items kind _ _ => simp [hkind] at kind
    | permissionState deviceId session items kind _ _ => simp [hkind] at kind
    | heartbeat deviceId kind _ => simp [hkind] at kind

end

end TrustedCompanionIngress

open TrustedCompanionIngress

/-- An ingress that trusts the paired phone. -/
def trustedPhone : TrustedCompanionIngress :=
  new (run (TrustOp.step asciiLowercase) CompanionTrustStore.empty pairPhone) "media" 3000

def phoneHello : QuicEnvelope :=
  coreEnvelope "hello" none (some "phone") .hello (.object
    [("appVersion", .string "0.13.0"), ("deviceId", .string "phone"),
      ("deviceName", .string "Phone"), ("androidSdk", .number (.posInt 35)),
      ("supportedProtocolVersions", .array [.number (.posInt 1)])])

def phoneCapabilities (fingerprint : String) : QuicEnvelope :=
  coreEnvelope "capabilities" none (some "phone") .capabilityList (.object
    [("certificateFingerprintSha256", .string fingerprint),
      ("capabilities", .array [.object [("id", .string "android.volume.media")]])])

end AdbControl.Companion
