import AdbControl.Companion.TrustHistory

namespace AdbControl.Companion

open Framework

/-- Among the events a pairing of the device is begun and later confirmed. -/
def PairedAnew (deviceId : String) (h : List TrustEvent) : Prop :=
  ∃ earlier pairingId request now later,
    h = earlier ++ .confirmed pairingId deviceId now :: later ∧
    .begun pairingId request ∈ earlier ∧ request.deviceId = deviceId

theorem PairedAnew.append {deviceId : String} {h : List TrustEvent} (hp : PairedAnew deviceId h)
    (h' : List TrustEvent) : PairedAnew deviceId (h ++ h') := by
  obtain ⟨earlier, pairingId, request, now, later, he, hbegun, hdevice⟩ := hp
  exact ⟨earlier, pairingId, request, now, later ++ h', by simp [he], hbegun, hdevice⟩

section

variable (toLowercase : Char → List Char)

/-- Whatever happens from here, the device is trusted by no fingerprint at no time before it is
paired anew. -/
def StaysRevoked (s : CompanionTrustStore) (deviceId : String) : Prop :=
  ∀ ops, ¬PairedAnew deviceId (eventsOf (TrustOp.step toLowercase) (TrustOp.emit toLowercase) s ops) →
    ∀ fingerprint t, (run (TrustOp.step toLowercase) s ops).isTrusted toLowercase deviceId
      fingerprint t = false

variable {toLowercase}

/-- The store since the device was revoked: its challenges are all newer, and until one of them is
confirmed its record stays revoked. -/
structure RevokedSince (deviceId : String) (s : CompanionTrustStore) (h : List TrustEvent) :
    Prop where
  pending : ∀ (pairingId : String) (c : PairingChallenge),
    s.pendingPairings[pairingId]? = some c → c.deviceId = deviceId →
      ∃ request, .begun pairingId request ∈ h ∧ request.deviceId = deviceId
  revoked : ¬PairedAnew deviceId h → ∀ r : TrustedDevice,
    s.trustedDevices[deviceId]? = some r → r.revokedAtUnixMs ≠ none

/-- Challenges that go or lose attempts bring nothing back. -/
theorem RevokedSince.pending_changed {deviceId : String} {s s' : CompanionTrustStore}
    {h : List TrustEvent} (hr : RevokedSince deviceId s h)
    (htrusted : s'.trustedDevices = s.trustedDevices)
    (hpending : ∀ (pairingId : String) (c : PairingChallenge),
      s'.pendingPairings[pairingId]? = some c →
        ∃ c₀, s.pendingPairings[pairingId]? = some c₀ ∧ c.deviceId = c₀.deviceId) :
    RevokedSince deviceId s' h := by
  refine ⟨?_, ?_⟩
  · intro pairingId c hc hdevice
    obtain ⟨c₀, hc₀, hsame⟩ := hpending pairingId c hc
    exact hr.pending pairingId c₀ hc₀ (hsame.symm.trans hdevice)
  · rw [htrusted]
    exact hr.revoked

theorem RevokedSince.begin {deviceId : String} {s : CompanionTrustStore} {h : List TrustEvent}
    {c : PairingChallenge} {request : PairingRequest} (hr : RevokedSince deviceId s h)
    (hdevice : c.deviceId = request.deviceId) :
    RevokedSince deviceId { s with pendingPairings := s.pendingPairings.insert c.pairingId c }
      (h ++ [.begun c.pairingId request]) := by
  refine ⟨?_, ?_⟩
  · intro pairingId c' hc' hd
    rw [Keyed.lookup_insert] at hc'
    split_ifs at hc' with hid
    · cases hc'
      exact ⟨request, by simp [hid], hdevice.symm.trans hd⟩
    · obtain ⟨request', hbegun, hsame⟩ := hr.pending pairingId c' hc' hd
      exact ⟨request', List.mem_append_left _ hbegun, hsame⟩
  · intro hanew
    exact hr.revoked (fun hp => hanew (hp.append _))

theorem RevokedSince.confirm {deviceId pairingId : String} {s : CompanionTrustStore}
    {h : List TrustEvent} {c : PairingChallenge} {now : UInt64} (hr : RevokedSince deviceId s h)
    (hc : s.pendingPairings[pairingId]? = some c) :
    RevokedSince deviceId ⟨s.pendingPairings.erase pairingId,
        s.trustedDevices.insert c.deviceId (CompanionTrustStore.newTrust c now)⟩
      (h ++ [.confirmed pairingId c.deviceId now]) := by
  refine ⟨?_, ?_⟩
  · intro pairingId' c' hc' hd
    rw [Keyed.lookup_erase] at hc'
    split_ifs at hc'
    obtain ⟨request, hbegun, hsame⟩ := hr.pending pairingId' c' hc' hd
    exact ⟨request, List.mem_append_left _ hbegun, hsame⟩
  · intro hanew r hl
    rw [Keyed.lookup_insert] at hl
    split_ifs at hl with hd
    · -- the challenge was begun since the revocation, so this confirmation pairs anew
      obtain ⟨request, hbegun, hsame⟩ := hr.pending pairingId c hc hd.symm
      exact absurd ⟨h, pairingId, request, now, [], by rw [hd], hbegun, hsame⟩ hanew
    · exact hr.revoked (fun hp => hanew (hp.append _)) r hl

theorem RevokedSince.revoke {deviceId : String} {s : CompanionTrustStore} {h : List TrustEvent}
    (hr : RevokedSince deviceId s h) (d : String) (now : UInt64) :
    RevokedSince deviceId (s.revokeDevice d now).1 (h ++ [.revoked d]) := by
  refine ⟨?_, ?_⟩
  · intro pairingId c hc hd
    rw [CompanionTrustStore.revokeDevice_pendingPairings] at hc
    obtain ⟨request, hbegun, hsame⟩ := hr.pending pairingId c hc hd
    exact ⟨request, List.mem_append_left _ hbegun, hsame⟩
  · intro hanew r hl
    rw [CompanionTrustStore.lookup_revokeDevice] at hl
    split_ifs at hl with hd
    · obtain ⟨r₀, -, hr₀⟩ := Option.map_eq_some_iff.mp hl
      rw [← hr₀]
      exact Option.some_ne_none _
    · exact hr.revoked (fun hp => hanew (hp.append _)) r hl

/-- No call brings a revoked device back without pairing it anew. -/
theorem revokedSince_step {deviceId : String} (s : CompanionTrustStore) (h : List TrustEvent)
    (op : TrustOp) (hr : RevokedSince deviceId s h) :
    RevokedSince deviceId (op.step toLowercase s) (h ++ op.emit toLowercase s) := by
  cases op with
  | beginPairing request now draws =>
    simp only [TrustOp.step, TrustOp.emit, CompanionTrustStore.beginPairing]
    split
    · simpa using hr
    · split
      · simpa using hr
      · exact hr.begin (c := CompanionTrustStore.newChallenge toLowercase request now draws) rfl
  | confirmPairing pairingId shortCode now =>
    simp only [TrustOp.step, TrustOp.emit]
    rcases s.confirmPairing_trusted pairingId shortCode now with ⟨⟨e, he⟩, htrusted⟩ | ⟨c, hc, he⟩
    · rw [he, List.append_nil]
      apply hr.pending_changed htrusted
      intro pairingId' c' hc'
      obtain ⟨c₀, hc₀, hsame⟩ := s.confirmPairing_pending pairingId shortCode now hc'
      exact ⟨c₀, hc₀, by rw [hsame]⟩
    · rw [he]
      exact hr.confirm hc
  | revokeDevice d now => exact hr.revoke d now

end

/-- A revocation is sticky exactly when no challenge of the device is pending at that moment. -/
theorem revocation_sticky_iff (toLowercase : Char → List Char) (pre : List TrustOp)
    (deviceId : String) (now : UInt64) :
    StaysRevoked toLowercase (run (TrustOp.step toLowercase) CompanionTrustStore.empty
        (pre ++ [.revokeDevice deviceId now])) deviceId ↔
      ∀ (pairingId : String) (c : PairingChallenge),
        (run (TrustOp.step toLowercase) CompanionTrustStore.empty pre).pendingPairings[pairingId]? =
          some c → c.deviceId ≠ deviceId := by
  have tracks := tracks_run toLowercase pre
  rw [run_snoc]
  generalize run (TrustOp.step toLowercase) CompanionTrustStore.empty pre = s at *
  constructor
  · intro sticky pairingId c hc hdevice
    -- the pending challenge is confirmed right away, and its own fingerprint is trusted again
    obtain ⟨request, -, -, hfingerprint⟩ := tracks.pending pairingId c hc
    have confirmed : (s.revokeDevice deviceId now).1.confirmPairing pairingId c.shortCode 0 =
        (⟨s.pendingPairings.erase pairingId,
          (s.revokeDevice deviceId now).1.trustedDevices.insert c.deviceId
            (CompanionTrustStore.newTrust c 0)⟩, .ok (CompanionTrustStore.newTrust c 0)) := by
      have live : ¬c.expiresAtUnixMs < 0 := UInt64.not_lt_zero
      simp only [CompanionTrustStore.confirmPairing,
        CompanionTrustStore.revokeDevice_pendingPairings, hc, if_neg live, ne_eq,
        not_true_eq_false, if_false]
      rfl
    have trusted := sticky [.confirmPairing pairingId c.shortCode 0] ?_
      request.certificateFingerprintSha256 0
    · simp only [run_cons, run_nil, TrustOp.step, confirmed, CompanionTrustStore.isTrusted,
        Keyed.lookup_insert, if_pos hdevice.symm] at trusted
      simp [CompanionTrustStore.newTrust, hfingerprint] at trusted
    · intro hanew
      obtain ⟨earlier, pairingId', request', now', later, he, hbegun, -⟩ := hanew
      have hmem : TrustEvent.begun pairingId' request' ∈
          earlier ++ .confirmed pairingId' deviceId now' :: later := List.mem_append_left _ hbegun
      rw [← he] at hmem
      simp [TrustOp.emit, TrustOp.step, confirmed] at hmem
  · intro hpending ops hanew fingerprint t
    have start : RevokedSince deviceId (TrustOp.step toLowercase s (.revokeDevice deviceId now))
        [] := by
      refine ⟨?_, ?_⟩
      · intro pairingId c hc hdevice
        rw [TrustOp.step, CompanionTrustStore.revokeDevice_pendingPairings] at hc
        exact absurd hdevice (hpending pairingId c hc)
      · intro _ r hr
        rw [TrustOp.step, CompanionTrustStore.lookup_revokeDevice, if_pos rfl] at hr
        obtain ⟨r₀, -, hr₀⟩ := Option.map_eq_some_iff.mp hr
        rw [← hr₀]
        exact Option.some_ne_none _
    have since := run_history (RevokedSince deviceId)
      (@revokedSince_step toLowercase deviceId) ops start
    rw [List.nil_append] at since
    unfold CompanionTrustStore.isTrusted
    split
    · rfl
    · next r hr =>
      have hrevoked : r.revokedAtUnixMs.isNone = false := by
        rw [Option.isNone_eq_false_iff, Option.isSome_iff_ne_none]
        exact since.revoked hanew r hr
      rw [hrevoked, Bool.false_and, Bool.false_and]

/-- A second challenge of the phone is open when it is revoked. -/
def pairTwice : List TrustOp :=
  pairPhone ++ [.beginPairing ⟨"phone", "Phone", upperFingerprint⟩ 2500 ⟨2, 43⟩]

/-- Confirming the challenge that was pending brings the revoked phone back. -/
theorem revocation_undone_by_pending :
    ¬∀ (pre : List TrustOp) (deviceId : String) (now : UInt64),
      (∃ r, ((run (TrustOp.step asciiLowercase) CompanionTrustStore.empty pre).revokeDevice
        deviceId now).2 = .ok r) →
      StaysRevoked asciiLowercase (run (TrustOp.step asciiLowercase) CompanionTrustStore.empty
        (pre ++ [.revokeDevice deviceId now])) deviceId := by
  intro h
  have sticky := h pairTwice "phone" 3000 ⟨_, rfl⟩
    [.confirmPairing "pair-0000000000000002" "000043" 4000] ?_ lowerFingerprint 5000
  · have trusted : (run (TrustOp.step asciiLowercase) (run (TrustOp.step asciiLowercase)
        CompanionTrustStore.empty (pairTwice ++ [.revokeDevice "phone" 3000]))
        [.confirmPairing "pair-0000000000000002" "000043" 4000]).isTrusted asciiLowercase "phone"
        lowerFingerprint 5000 = true := by decide
    rw [trusted] at sticky
    cases sticky
  · have events : eventsOf (TrustOp.step asciiLowercase) (TrustOp.emit asciiLowercase)
        (run (TrustOp.step asciiLowercase) CompanionTrustStore.empty
          (pairTwice ++ [.revokeDevice "phone" 3000]))
        [.confirmPairing "pair-0000000000000002" "000043" 4000] =
          [.confirmed "pair-0000000000000002" "phone" 4000] := by decide
    intro hanew
    obtain ⟨earlier, pairingId, request, now, later, he, hbegun, -⟩ := hanew
    have hmem : TrustEvent.begun pairingId request ∈
        earlier ++ .confirmed pairingId "phone" now :: later := List.mem_append_left _ hbegun
    rw [← he, events] at hmem
    simp at hmem

end AdbControl.Companion
