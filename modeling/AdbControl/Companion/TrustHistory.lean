import AdbControl.Companion.Trust
import AdbControl.Framework.Run

namespace AdbControl.Companion

open Framework

/-- One call of the trust store that can change it. -/
inductive TrustOp
  | beginPairing (request : PairingRequest) (nowUnixMs : UInt64) (draws : PairingDraws)
  | confirmPairing (pairingId shortCode : String) (nowUnixMs : UInt64)
  | revokeDevice (deviceId : String) (nowUnixMs : UInt64)

/-- What a caller sees happen: a pairing begun, a pairing confirmed for a device, a device
revoked. -/
inductive TrustEvent
  | begun (pairingId : String) (request : PairingRequest)
  | confirmed (pairingId deviceId : String) (nowUnixMs : UInt64)
  | revoked (deviceId : String)
  deriving DecidableEq

/-- The event decides whether the device is trusted. -/
def TrustEvent.decides (deviceId : String) : TrustEvent → Bool
  | begun .. => false
  | confirmed _ d _ | revoked d => d == deviceId

def TrustEvent.begunId : TrustEvent → Option String
  | begun pairingId _ => some pairingId
  | _ => none

section

variable (toLowercase : Char → List Char)

namespace TrustOp

def step (s : CompanionTrustStore) : TrustOp → CompanionTrustStore
  | beginPairing request now draws => (s.beginPairing toLowercase request now draws).1
  | confirmPairing pairingId shortCode now => (s.confirmPairing pairingId shortCode now).1
  | revokeDevice deviceId now => (s.revokeDevice deviceId now).1

/-- The event of a call: a refused pairing or confirmation is none, a revocation always one. -/
def emit (s : CompanionTrustStore) : TrustOp → List TrustEvent
  | beginPairing request now draws =>
    match (s.beginPairing toLowercase request now draws).2 with
    | .ok challenge => [.begun challenge.pairingId request]
    | .error _ => []
  | confirmPairing pairingId shortCode now =>
    match (s.confirmPairing pairingId shortCode now).2 with
    | .ok trusted => [.confirmed pairingId trusted.deviceId now]
    | .error _ => []
  | revokeDevice deviceId _ => [.revoked deviceId]

end TrustOp

/-- The challenge or record stands for a pairing that was begun. -/
def FromBegun (h : List TrustEvent) (pairingId deviceId fingerprint : String) : Prop :=
  ∃ request, .begun pairingId request ∈ h ∧ request.deviceId = deviceId ∧
    fingerprint = normalizeFingerprint toLowercase request.certificateFingerprintSha256

/-- How the store relates to its history: every pending challenge was begun, a device whose last
decision is a confirmation has the record of that confirmation, and any other device has no
record or a revoked one. -/
structure Tracks (s : CompanionTrustStore) (h : List TrustEvent) : Prop where
  pending : ∀ (pairingId : String) (c : PairingChallenge),
    s.pendingPairings[pairingId]? = some c →
      FromBegun toLowercase h pairingId c.deviceId c.certificateFingerprintSha256
  confirmed : ∀ (deviceId pairingId d : String) (now : UInt64),
    lastOf (TrustEvent.decides deviceId) h = some (.confirmed pairingId d now) →
      ∃ r, s.trustedDevices[deviceId]? = some r ∧ r.revokedAtUnixMs = none ∧
        r.expiresAtUnixMs = now + trustTtlMs ∧
        FromBegun toLowercase h pairingId deviceId r.certificateFingerprintSha256
  others : ∀ (deviceId : String) (r : TrustedDevice),
    s.trustedDevices[deviceId]? = some r → r.revokedAtUnixMs = none →
      ∃ pairingId d now, lastOf (TrustEvent.decides deviceId) h =
        some (.confirmed pairingId d now)

variable {toLowercase}

theorem FromBegun.append {h h' : List TrustEvent} {pairingId deviceId fingerprint : String}
    (hb : FromBegun toLowercase h pairingId deviceId fingerprint) :
    FromBegun toLowercase (h ++ h') pairingId deviceId fingerprint := by
  obtain ⟨request, hmem, hrest⟩ := hb
  exact ⟨request, List.mem_append_left h' hmem, hrest⟩

/-- Pending challenges may go or lose attempts: nothing is decided. -/
theorem Tracks.pending_changed {s s' : CompanionTrustStore} {h : List TrustEvent}
    (ht : Tracks toLowercase s h) (htrusted : s'.trustedDevices = s.trustedDevices)
    (hpending : ∀ (pairingId : String) (c : PairingChallenge),
      s'.pendingPairings[pairingId]? = some c → ∃ c₀, s.pendingPairings[pairingId]? = some c₀ ∧
        c.deviceId = c₀.deviceId ∧
        c.certificateFingerprintSha256 = c₀.certificateFingerprintSha256) :
    Tracks toLowercase s' h := by
  refine ⟨?_, ?_, ?_⟩
  · intro pairingId c hc
    obtain ⟨c₀, hc₀, hdevice, hfingerprint⟩ := hpending pairingId c hc
    rw [hdevice, hfingerprint]
    exact ht.pending pairingId c₀ hc₀
  · intro deviceId pairingId d now hl
    rw [htrusted]
    exact ht.confirmed deviceId pairingId d now hl
  · intro deviceId r hr
    rw [htrusted] at hr
    exact ht.others deviceId r hr

theorem Tracks.begin {s : CompanionTrustStore} {h : List TrustEvent} {c : PairingChallenge}
    {request : PairingRequest} (ht : Tracks toLowercase s h) (hdevice : c.deviceId = request.deviceId)
    (hfingerprint : c.certificateFingerprintSha256 =
      normalizeFingerprint toLowercase request.certificateFingerprintSha256) :
    Tracks toLowercase { s with pendingPairings := s.pendingPairings.insert c.pairingId c }
      (h ++ [.begun c.pairingId request]) := by
  have undecided (deviceId : String) : lastOf (TrustEvent.decides deviceId)
      (h ++ [.begun c.pairingId request]) = lastOf (TrustEvent.decides deviceId) h := by
    rw [lastOf_snoc]
    rfl
  refine ⟨?_, ?_, ?_⟩
  · intro pairingId c' hc'
    rw [Keyed.lookup_insert] at hc'
    split_ifs at hc' with hid
    · cases hc'
      exact ⟨request, by simp [hid], hdevice.symm, hfingerprint⟩
    · exact (ht.pending pairingId c' hc').append
  · intro deviceId pairingId d now hl
    rw [undecided] at hl
    obtain ⟨r, hr, hnone, hexpires, hbegun⟩ := ht.confirmed deviceId pairingId d now hl
    exact ⟨r, hr, hnone, hexpires, hbegun.append⟩
  · intro deviceId r hr hnone
    rw [undecided]
    exact ht.others deviceId r hr hnone

theorem Tracks.confirm {s : CompanionTrustStore} {h : List TrustEvent} {pairingId : String}
    {c : PairingChallenge} {now : UInt64} (ht : Tracks toLowercase s h)
    (hc : s.pendingPairings[pairingId]? = some c) :
    Tracks toLowercase ⟨s.pendingPairings.erase pairingId,
        s.trustedDevices.insert c.deviceId (CompanionTrustStore.newTrust c now)⟩
      (h ++ [.confirmed pairingId c.deviceId now]) := by
  refine ⟨?_, ?_, ?_⟩
  · intro pairingId' c' hc'
    rw [Keyed.lookup_erase] at hc'
    split_ifs at hc'
    exact (ht.pending pairingId' c' hc').append
  · intro deviceId pairingId' d now' hl
    rw [lastOf_snoc] at hl
    by_cases hd : c.deviceId = deviceId
    · rw [if_pos (by simp [TrustEvent.decides, hd])] at hl
      cases hl
      refine ⟨CompanionTrustStore.newTrust c now, ?_, rfl, rfl, ?_⟩
      · rw [Keyed.lookup_insert, if_pos hd.symm]
      · rw [← hd]
        exact (ht.pending pairingId c hc).append
    · rw [if_neg (by simp [TrustEvent.decides, hd])] at hl
      obtain ⟨r, hr, hnone, hexpires, hbegun⟩ := ht.confirmed deviceId pairingId' d now' hl
      exact ⟨r, by rw [Keyed.lookup_insert, if_neg (Ne.symm hd), hr], hnone, hexpires,
        hbegun.append⟩
  · intro deviceId r hr hnone
    rw [lastOf_snoc]
    by_cases hd : c.deviceId = deviceId
    · rw [if_pos (by simp [TrustEvent.decides, hd])]
      exact ⟨pairingId, c.deviceId, now, rfl⟩
    · rw [if_neg (by simp [TrustEvent.decides, hd])]
      rw [Keyed.lookup_insert, if_neg (Ne.symm hd)] at hr
      exact ht.others deviceId r hr hnone

theorem Tracks.revoke {s : CompanionTrustStore} {h : List TrustEvent} (ht : Tracks toLowercase s h)
    (deviceId : String) (now : UInt64) :
    Tracks toLowercase (s.revokeDevice deviceId now).1 (h ++ [.revoked deviceId]) := by
  refine ⟨?_, ?_, ?_⟩
  · intro pairingId c hc
    rw [CompanionTrustStore.revokeDevice_pendingPairings] at hc
    exact (ht.pending pairingId c hc).append
  · intro d pairingId d' now' hl
    rw [lastOf_snoc] at hl
    by_cases hd : deviceId = d
    · rw [if_pos (by simp [TrustEvent.decides, hd])] at hl
      cases hl
    · rw [if_neg (by simp [TrustEvent.decides, hd])] at hl
      obtain ⟨r, hr, hnone, hexpires, hbegun⟩ := ht.confirmed d pairingId d' now' hl
      exact ⟨r, by rw [CompanionTrustStore.lookup_revokeDevice, if_neg (Ne.symm hd), hr],
        hnone, hexpires, hbegun.append⟩
  · intro d r hr hnone
    rw [CompanionTrustStore.lookup_revokeDevice] at hr
    by_cases hd : d = deviceId
    · rw [if_pos hd] at hr
      obtain ⟨r₀, -, hr₀⟩ := Option.map_eq_some_iff.mp hr
      rw [← hr₀] at hnone
      cases hnone
    · rw [if_neg hd] at hr
      rw [lastOf_snoc, if_neg (by simp [TrustEvent.decides, Ne.symm hd])]
      exact ht.others d r hr hnone

/-- Every call keeps the store in step with its history. -/
theorem tracks_step (s : CompanionTrustStore) (h : List TrustEvent) (op : TrustOp)
    (ht : Tracks toLowercase s h) :
    Tracks toLowercase (op.step toLowercase s) (h ++ op.emit toLowercase s) := by
  cases op with
  | beginPairing request now draws =>
    simp only [TrustOp.step, TrustOp.emit, CompanionTrustStore.beginPairing]
    split
    · simpa using ht
    · split
      · simpa using ht
      · exact Tracks.begin (c := CompanionTrustStore.newChallenge toLowercase request now draws) ht
          rfl rfl
  | confirmPairing pairingId shortCode now =>
    simp only [TrustOp.step, TrustOp.emit]
    rcases s.confirmPairing_trusted pairingId shortCode now with ⟨⟨e, he⟩, htrusted⟩ | ⟨c, hc, he⟩
    · rw [he, List.append_nil]
      apply ht.pending_changed htrusted
      intro pairingId' c' hc'
      obtain ⟨c₀, hc₀, hsame⟩ := s.confirmPairing_pending pairingId shortCode now hc'
      exact ⟨c₀, hc₀, by rw [hsame], by rw [hsame]⟩
    · rw [he]
      exact ht.confirm hc
  | revokeDevice deviceId now => exact ht.revoke deviceId now

/-- With distinct ids a pairing id names one request. -/
theorem begun_unique {h : List TrustEvent} (hn : (h.filterMap TrustEvent.begunId).Nodup)
    {pairingId : String} {r r' : PairingRequest} (hr : .begun pairingId r ∈ h)
    (hr' : .begun pairingId r' ∈ h) : r = r' := by
  have same := eq_of_nodup_filterMap hn hr hr' rfl rfl
  cases same
  rfl

/-- The events of a run of the trust store from its empty state. -/
def trustEvents (toLowercase : Char → List Char) (ops : List TrustOp) : List TrustEvent :=
  eventsOf (TrustOp.step toLowercase) (TrustOp.emit toLowercase) CompanionTrustStore.empty ops

theorem tracks_run (toLowercase : Char → List Char) (ops : List TrustOp) :
    Tracks toLowercase (run (TrustOp.step toLowercase) CompanionTrustStore.empty ops)
      (trustEvents toLowercase ops) := by
  have start : Tracks toLowercase CompanionTrustStore.empty [] := by
    refine ⟨?_, ?_, ?_⟩
    · intro pairingId c hc
      simp [CompanionTrustStore.empty] at hc
    · intro deviceId pairingId d now hl
      cases hl
    · intro deviceId r hr
      simp [CompanionTrustStore.empty] at hr
  have h := run_history (Tracks toLowercase) tracks_step ops start
  rwa [List.nil_append] at h

/-- After any history a device is trusted exactly when its last decision is a confirmation, of a
pairing begun with the same fingerprint up to writing, whose lifetime has not passed. -/
theorem isTrusted_iff_history (toLowercase : Char → List Char) (ops : List TrustOp)
    (distinct : ((trustEvents toLowercase ops).filterMap TrustEvent.begunId).Nodup)
    (bounded : ∀ pairingId d now, .confirmed pairingId d now ∈ trustEvents toLowercase ops →
      now.toNat + trustTtlMs.toNat < 2^64)
    (deviceId fingerprint : String) (t : UInt64) :
    (run (TrustOp.step toLowercase) CompanionTrustStore.empty ops).isTrusted toLowercase deviceId
        fingerprint t = true ↔
      ∃ pairingId now request,
        lastOf (TrustEvent.decides deviceId) (trustEvents toLowercase ops) =
          some (.confirmed pairingId deviceId now) ∧
        .begun pairingId request ∈ trustEvents toLowercase ops ∧
        normalizeFingerprint toLowercase request.certificateFingerprintSha256 =
          normalizeFingerprint toLowercase fingerprint ∧
        t.toNat ≤ now.toNat + trustTtlMs.toNat := by
  have ht := tracks_run toLowercase ops
  have hdevice {pairingId d : String} {now : UInt64}
      (hl : lastOf (TrustEvent.decides deviceId) (trustEvents toLowercase ops) =
        some (.confirmed pairingId d now)) : d = deviceId :=
    beq_iff_eq.mp (lastOf_spec hl).2
  have hlifetime {pairingId d : String} {now : UInt64}
      (hl : lastOf (TrustEvent.decides deviceId) (trustEvents toLowercase ops) =
        some (.confirmed pairingId d now)) :
      t ≤ now + trustTtlMs ↔ t.toNat ≤ now.toNat + trustTtlMs.toNat := by
    rw [UInt64.le_iff_toNat_le, UInt64.toNat_add,
      Nat.mod_eq_of_lt (bounded pairingId d now (lastOf_spec hl).1)]
  unfold CompanionTrustStore.isTrusted
  constructor
  · intro h
    cases hr : (run (TrustOp.step toLowercase) CompanionTrustStore.empty
        ops).trustedDevices[deviceId]? with
    | none => simp [hr] at h
    | some r =>
      simp only [hr, Bool.and_eq_true, Option.isNone_iff_eq_none, decide_eq_true_eq,
        beq_iff_eq] at h
      obtain ⟨⟨hnone, hlive⟩, hfingerprint⟩ := h
      obtain ⟨pairingId, d, now, hl⟩ := ht.others deviceId r hr hnone
      obtain ⟨r', hr', -, hexpires, request, hbegun, -, hnormal⟩ :=
        ht.confirmed deviceId pairingId d now hl
      rw [hr] at hr'
      cases hr'
      rw [hexpires, hlifetime hl] at hlive
      refine ⟨pairingId, now, request, ?_, hbegun, hnormal.symm.trans hfingerprint, hlive⟩
      rw [hl, hdevice hl]
  · intro h
    obtain ⟨pairingId, now, request, hl, hbegun, hfingerprint, hlive⟩ := h
    obtain ⟨r, hr, hnone, hexpires, request', hbegun', -, hnormal⟩ :=
      ht.confirmed deviceId pairingId deviceId now hl
    have hsame : request' = request := begun_unique distinct hbegun' hbegun
    rw [hsame] at hnormal
    rw [← hlifetime hl, ← hexpires] at hlive
    simp [hr, hnone, hlive, hnormal, hfingerprint]

end

/-- `char::to_lowercase` on ASCII. -/
def asciiLowercase (c : Char) : List Char := [c.toLower]

def upperFingerprint : String := String.ofList (List.replicate 64 'A')
def lowerFingerprint : String := String.ofList (List.replicate 64 'a')

def pairPhone : List TrustOp :=
  [.beginPairing ⟨"phone", "Phone", upperFingerprint⟩ 1000 ⟨1, 42⟩,
    .confirmPairing "pair-0000000000000001" "000042" 2000]

theorem isTrusted_iff_history_phone :
    (run (TrustOp.step asciiLowercase) CompanionTrustStore.empty pairPhone).isTrusted
      asciiLowercase "phone" lowerFingerprint 3000 = true := by
  have events : trustEvents asciiLowercase pairPhone =
      [.begun "pair-0000000000000001" ⟨"phone", "Phone", upperFingerprint⟩,
        .confirmed "pair-0000000000000001" "phone" 2000] := by decide
  have distinct : ((trustEvents asciiLowercase pairPhone).filterMap TrustEvent.begunId).Nodup := by
    rw [events]
    decide
  have bounded (pairingId d : String) (now : UInt64)
      (h : .confirmed pairingId d now ∈ trustEvents asciiLowercase pairPhone) :
      now.toNat + trustTtlMs.toNat < 2^64 := by
    rw [events] at h
    simp only [List.mem_cons, reduceCtorEq, TrustEvent.confirmed.injEq, List.not_mem_nil, or_false,
      false_or] at h
    rw [h.2.2]
    decide
  apply (isTrusted_iff_history asciiLowercase pairPhone distinct bounded _ _ _).mpr
  refine ⟨"pair-0000000000000001", 2000, ⟨"phone", "Phone", upperFingerprint⟩, ?_, ?_, ?_, ?_⟩
  · rw [events]
    decide
  · rw [events]
    decide
  · decide
  · decide

end AdbControl.Companion
