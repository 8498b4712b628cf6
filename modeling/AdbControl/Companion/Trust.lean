import AdbControl.Framework.Keyed
import AdbControl.Framework.Text
import AdbControl.Error

namespace AdbControl.Companion

open Framework

def pairingTtlMs : UInt64 := 5 * 60 * 1000
def trustTtlMs : UInt64 := 30 * 24 * 60 * 60 * 1000
def maxPairingAttempts : Nat := 5

structure PairingRequest where
  deviceId : String
  deviceName : String
  certificateFingerprintSha256 : String
  deriving DecidableEq, Repr

structure PairingChallenge where
  pairingId : String
  deviceId : String
  deviceName : String
  certificateFingerprintSha256 : String
  shortCode : String
  createdAtUnixMs : UInt64
  expiresAtUnixMs : UInt64
  attemptsRemaining : Nat
  deriving DecidableEq, Repr

structure TrustedDevice where
  deviceId : String
  deviceName : String
  certificateFingerprintSha256 : String
  trustedAtUnixMs : UInt64
  expiresAtUnixMs : UInt64
  revokedAtUnixMs : Option UInt64
  deriving DecidableEq, Repr

structure CompanionTrustStore where
  pendingPairings : Keyed String PairingChallenge
  trustedDevices : Keyed String TrustedDevice

/-- What `begin_pairing` draws: the number of the pairing id, and the short code below 10^6. -/
structure PairingDraws where
  pairing : UInt64
  code : Nat

/-- `pair-{:016x}`. -/
def pairingIdOf (n : UInt64) : String :=
  String.ofList ("pair-".toList ++ (Nat.toDigits 16 n.toNat).leftpad 16 '0')

/-- `{:06}`. -/
def shortCodeOf (n : Nat) : String := String.ofList ((Nat.toDigits 10 n).leftpad 6 '0')

def validateDeviceId (deviceId : String) : Except AppError Unit :=
  if isBlank deviceId then
    .error ⟨"COMPANION_PAIRING_DEVICE_ID_MISSING",
      "Companion pairing requires a non-empty deviceId.", "companion.trust", false, none⟩
  else .ok ()

section

-- `char::to_lowercase`, which may give several characters
variable (toLowercase : Char → List Char)

/-- Without colons and ASCII whitespace, in lower case. -/
def normalizeFingerprint (fingerprint : String) : String :=
  String.ofList ((fingerprint.toList.filter
    (fun c => c != ':' && !isAsciiWhitespace c)).flatMap toLowercase)

def validateFingerprint (fingerprint : String) : Except AppError Unit :=
  let normalized := normalizeFingerprint toLowercase fingerprint
  if normalized.utf8ByteSize ≠ 64 ∨ normalized.toList.all isAsciiHexdigit = false then
    .error ⟨"COMPANION_CERT_FINGERPRINT_INVALID",
      "Companion certificate fingerprint must be a SHA-256 hex string.", "companion.trust", false,
      none⟩
  else .ok ()

namespace CompanionTrustStore

def empty : CompanionTrustStore := ⟨∅, ∅⟩

/-- The challenge a pairing starts with. -/
def newChallenge (request : PairingRequest) (nowUnixMs : UInt64) (draws : PairingDraws) :
    PairingChallenge :=
  ⟨pairingIdOf draws.pairing, request.deviceId, request.deviceName,
    normalizeFingerprint toLowercase request.certificateFingerprintSha256,
    shortCodeOf draws.code, nowUnixMs, nowUnixMs + pairingTtlMs, maxPairingAttempts⟩

def beginPairing (s : CompanionTrustStore) (request : PairingRequest) (nowUnixMs : UInt64)
    (draws : PairingDraws) : CompanionTrustStore × Except AppError PairingChallenge :=
  match validateDeviceId request.deviceId with
  | .error e => (s, .error e)
  | .ok () =>
    match validateFingerprint toLowercase request.certificateFingerprintSha256 with
    | .error e => (s, .error e)
    | .ok () =>
      let challenge := newChallenge toLowercase request nowUnixMs draws
      ({ s with pendingPairings := s.pendingPairings.insert challenge.pairingId challenge },
        .ok challenge)

/-- The record of a confirmed challenge. -/
def newTrust (challenge : PairingChallenge) (nowUnixMs : UInt64) : TrustedDevice :=
  ⟨challenge.deviceId, challenge.deviceName, challenge.certificateFingerprintSha256, nowUnixMs,
    nowUnixMs + trustTtlMs, none⟩

/-- A wrong code costs an attempt, and the last one the challenge. -/
def confirmPairing (s : CompanionTrustStore) (pairingId shortCode : String)
    (nowUnixMs : UInt64) : CompanionTrustStore × Except AppError TrustedDevice :=
  match s.pendingPairings[pairingId]? with
  | none =>
    (s, .error ⟨"COMPANION_PAIRING_NOT_FOUND",
      "Companion pairing challenge does not exist or has already been consumed.",
      "companion.trust", true, none⟩)
  | some challenge =>
    if challenge.expiresAtUnixMs < nowUnixMs then
      ({ s with pendingPairings := s.pendingPairings.erase pairingId },
        .error ⟨"COMPANION_PAIRING_EXPIRED", "Companion pairing challenge has expired.",
          "companion.trust", true, none⟩)
    else if challenge.shortCode ≠ shortCode then
      let attemptsRemaining := challenge.attemptsRemaining - 1
      let pending :=
        if attemptsRemaining = 0 then s.pendingPairings.erase pairingId
        else s.pendingPairings.insert pairingId
          { challenge with attemptsRemaining := attemptsRemaining }
      ({ s with pendingPairings := pending },
        .error ⟨"COMPANION_PAIRING_CODE_MISMATCH",
          "Companion pairing short code does not match.", "companion.trust", true,
          some ("Pairing attempts remaining: " ++ attemptsRemaining.repr)⟩)
    else
      let trusted := newTrust challenge nowUnixMs
      (⟨s.pendingPairings.erase pairingId, s.trustedDevices.insert trusted.deviceId trusted⟩,
        .ok trusted)

/-- A confirmation finds no challenge, an expired one, another code or the right one. -/
theorem confirmPairing_cases (s : CompanionTrustStore) (pairingId shortCode : String)
    (nowUnixMs : UInt64) :
    (s.pendingPairings[pairingId]? = none ∧
      ∃ e, s.confirmPairing pairingId shortCode nowUnixMs = (s, .error e) ∧
        e.errorCode = "COMPANION_PAIRING_NOT_FOUND") ∨
    ∃ c, s.pendingPairings[pairingId]? = some c ∧
      ((c.expiresAtUnixMs < nowUnixMs ∧
        ∃ e, s.confirmPairing pairingId shortCode nowUnixMs =
            ({ s with pendingPairings := s.pendingPairings.erase pairingId }, .error e) ∧
          e.errorCode = "COMPANION_PAIRING_EXPIRED") ∨
      (¬c.expiresAtUnixMs < nowUnixMs ∧ c.shortCode ≠ shortCode ∧
        ∃ e, s.confirmPairing pairingId shortCode nowUnixMs =
            (⟨if c.attemptsRemaining - 1 = 0 then s.pendingPairings.erase pairingId
              else s.pendingPairings.insert pairingId
                { c with attemptsRemaining := c.attemptsRemaining - 1 },
              s.trustedDevices⟩, .error e) ∧
          e.errorCode = "COMPANION_PAIRING_CODE_MISMATCH") ∨
      (¬c.expiresAtUnixMs < nowUnixMs ∧ c.shortCode = shortCode ∧
        s.confirmPairing pairingId shortCode nowUnixMs =
          (⟨s.pendingPairings.erase pairingId,
            s.trustedDevices.insert c.deviceId (newTrust c nowUnixMs)⟩,
            .ok (newTrust c nowUnixMs)))) := by
  cases hc : s.pendingPairings[pairingId]? with
  | none => exact Or.inl ⟨rfl, _, by rw [confirmPairing, hc], rfl⟩
  | some c =>
    refine Or.inr ⟨c, rfl, ?_⟩
    by_cases hexpired : c.expiresAtUnixMs < nowUnixMs
    · exact Or.inl ⟨hexpired, _, by simp only [confirmPairing, hc, if_pos hexpired]; rfl, rfl⟩
    · by_cases hcode : c.shortCode = shortCode
      · refine Or.inr (Or.inr ⟨hexpired, hcode, ?_⟩)
        simp only [confirmPairing, hc, if_neg hexpired, hcode, ne_eq, not_true_eq_false, if_false]
        rfl
      · have value := confirmPairing.eq_def s pairingId shortCode nowUnixMs
        simp only [hc, if_neg hexpired, if_pos (show c.shortCode ≠ shortCode from hcode)] at value
        exact Or.inr (Or.inl ⟨hexpired, hcode, _, value, rfl⟩)

/-- A confirmation takes challenges away and attempts from them, and changes nothing else. -/
theorem confirmPairing_pending (s : CompanionTrustStore) (pairingId shortCode : String)
    (nowUnixMs : UInt64) {id : String} {c : PairingChallenge}
    (hc : (s.confirmPairing pairingId shortCode nowUnixMs).1.pendingPairings[id]? = some c) :
    ∃ c₀, s.pendingPairings[id]? = some c₀ ∧
      c = { c₀ with attemptsRemaining := c.attemptsRemaining } := by
  have gone (h : (s.pendingPairings.erase pairingId)[id]? = some c) :
      ∃ c₀, s.pendingPairings[id]? = some c₀ ∧
        c = { c₀ with attemptsRemaining := c.attemptsRemaining } := by
    rw [Keyed.lookup_erase] at h
    split_ifs at h
    exact ⟨c, h, rfl⟩
  rcases s.confirmPairing_cases pairingId shortCode nowUnixMs with ⟨-, e, he, -⟩ |
    ⟨c₀, hc₀, ⟨-, e, he, -⟩ | ⟨-, -, e, he, -⟩ | ⟨-, -, he⟩⟩
  · rw [he] at hc
    exact ⟨c, hc, rfl⟩
  · rw [he] at hc
    exact gone hc
  · rw [he] at hc
    dsimp only at hc
    split_ifs at hc with hlast
    · exact gone hc
    · rcases Keyed.lookup_insert_cases hc with ⟨rfl, rfl⟩ | ⟨-, hc⟩
      · exact ⟨c₀, hc₀, rfl⟩
      · exact ⟨c, hc, rfl⟩
  · rw [he] at hc
    exact gone hc

/-- A refused confirmation leaves the trusted devices alone, and an accepted one was for a
pending challenge. -/
theorem confirmPairing_trusted (s : CompanionTrustStore) (pairingId shortCode : String)
    (nowUnixMs : UInt64) :
    ((∃ e, (s.confirmPairing pairingId shortCode nowUnixMs).2 = .error e) ∧
      (s.confirmPairing pairingId shortCode nowUnixMs).1.trustedDevices = s.trustedDevices) ∨
    ∃ c, s.pendingPairings[pairingId]? = some c ∧
      s.confirmPairing pairingId shortCode nowUnixMs =
        (⟨s.pendingPairings.erase pairingId,
          s.trustedDevices.insert c.deviceId (newTrust c nowUnixMs)⟩,
          .ok (newTrust c nowUnixMs)) := by
  rcases s.confirmPairing_cases pairingId shortCode nowUnixMs with ⟨-, e, he, -⟩ |
    ⟨c, hc, ⟨-, e, he, -⟩ | ⟨-, -, e, he, -⟩ | ⟨-, -, he⟩⟩
  · exact Or.inl ⟨⟨e, by rw [he]⟩, by rw [he]⟩
  · exact Or.inl ⟨⟨e, by rw [he]⟩, by rw [he]⟩
  · exact Or.inl ⟨⟨e, by rw [he]⟩, by rw [he]⟩
  · exact Or.inr ⟨c, hc, he⟩

def isTrusted (s : CompanionTrustStore) (deviceId certificateFingerprintSha256 : String)
    (nowUnixMs : UInt64) : Bool :=
  match s.trustedDevices[deviceId]? with
  | none => false
  | some device =>
    device.revokedAtUnixMs.isNone && decide (nowUnixMs ≤ device.expiresAtUnixMs) &&
      device.certificateFingerprintSha256 ==
        normalizeFingerprint toLowercase certificateFingerprintSha256

def revokeDevice (s : CompanionTrustStore) (deviceId : String) (nowUnixMs : UInt64) :
    CompanionTrustStore × Except AppError TrustedDevice :=
  match s.trustedDevices[deviceId]? with
  | none =>
    (s, .error ⟨"COMPANION_TRUST_DEVICE_NOT_FOUND", "Trusted companion device does not exist.",
      "companion.trust", true, none⟩)
  | some device =>
    let device := { device with revokedAtUnixMs := some nowUnixMs }
    ({ s with trustedDevices := s.trustedDevices.insert deviceId device }, .ok device)

@[simp] theorem revokeDevice_pendingPairings (s : CompanionTrustStore) (deviceId : String)
    (nowUnixMs : UInt64) :
    (s.revokeDevice deviceId nowUnixMs).1.pendingPairings = s.pendingPairings := by
  unfold revokeDevice
  split <;> rfl

theorem lookup_revokeDevice (s : CompanionTrustStore) (deviceId d : String) (nowUnixMs : UInt64) :
    (s.revokeDevice deviceId nowUnixMs).1.trustedDevices[d]? =
      if d = deviceId then s.trustedDevices[d]?.map
        (fun r => { r with revokedAtUnixMs := some nowUnixMs }) else s.trustedDevices[d]? := by
  unfold revokeDevice
  cases hr : s.trustedDevices[deviceId]? with
  | none => by_cases hd : d = deviceId <;> simp [hd, hr]
  | some r => by_cases hd : d = deviceId <;> simp [hd, hr]

end CompanionTrustStore

end

end AdbControl.Companion
