import AdbControl.Companion.TrustHistory

namespace AdbControl.Companion

open Framework

/-- How a confirmation ended: without a challenge, at an expired one, after comparing a wrong code,
or after comparing the right one. -/
inductive Attempt
  | missing
  | expired
  | wrong
  | right
  deriving DecidableEq

/-- Read off what the call returned. -/
def Attempt.of : Except AppError TrustedDevice → Attempt
  | .ok _ => right
  | .error e =>
    if e.errorCode = "COMPANION_PAIRING_NOT_FOUND" then missing
    else if e.errorCode = "COMPANION_PAIRING_EXPIRED" then expired
    else wrong

inductive PairingEvent
  | begun (challenge : PairingChallenge)
  | tried (pairingId : String) (attempt : Attempt)

def PairingEvent.begunId : PairingEvent → Option String
  | begun challenge => some challenge.pairingId
  | tried .. => none

/-- The attempts at one pairing, in order. -/
def attemptsOf (pairingId : String) (h : List PairingEvent) : List Attempt :=
  h.filterMap fun
    | .begun _ => none
    | .tried id attempt => if id = pairingId then some attempt else none

@[simp] theorem attemptsOf_append (pairingId : String) (h h' : List PairingEvent) :
    attemptsOf pairingId (h ++ h') = attemptsOf pairingId h ++ attemptsOf pairingId h' :=
  List.filterMap_append

@[simp] theorem attemptsOf_begun (pairingId : String) (c : PairingChallenge) :
    attemptsOf pairingId [.begun c] = [] := rfl

@[simp] theorem attemptsOf_tried (pairingId : String) (a : Attempt) :
    attemptsOf pairingId [.tried pairingId a] = [a] := by
  simp [attemptsOf]

theorem attemptsOf_other {pairingId id : String} (hid : id ≠ pairingId) (a : Attempt) :
    attemptsOf pairingId [.tried id a] = [] := by
  simp [attemptsOf, hid]

/-- The challenge can no longer be confirmed after these attempts. -/
def Spent (attempts : List Attempt) : Prop :=
  .right ∈ attempts ∨ .expired ∈ attempts ∨ maxPairingAttempts ≤ attempts.count .wrong

section

variable (toLowercase : Char → List Char)

def TrustOp.traces (s : CompanionTrustStore) : TrustOp → List PairingEvent
  | beginPairing request now draws =>
    match (s.beginPairing toLowercase request now draws).2 with
    | .ok challenge => [.begun challenge]
    | .error _ => []
  | confirmPairing pairingId shortCode now =>
    [.tried pairingId (Attempt.of (s.confirmPairing pairingId shortCode now).2)]
  | revokeDevice .. => []

/-- The pairing events of a run of the trust store from its empty state. -/
def pairingTrace (ops : List TrustOp) : List PairingEvent :=
  eventsOf (TrustOp.step toLowercase) (TrustOp.traces toLowercase) CompanionTrustStore.empty ops

end

/-- How the store stands to the attempts at one pairing: its challenge is pending with the attempts
that are left as long as it is not spent, and before it is begun there is nothing to attempt. -/
structure Tally (pairingId : String) (s : CompanionTrustStore) (h : List PairingEvent) : Prop where
  unbegun : (∀ c, .begun c ∈ h → c.pairingId ≠ pairingId) →
    ∀ a ∈ attemptsOf pairingId h, a = .missing
  pending : ∀ c : PairingChallenge, s.pendingPairings[pairingId]? = some c →
    ∃ c₀, .begun c₀ ∈ h ∧ c₀.pairingId = pairingId ∧ ¬Spent (attemptsOf pairingId h) ∧
      c = { c₀ with attemptsRemaining :=
        maxPairingAttempts - (attemptsOf pairingId h).count .wrong }
  wrong : (attemptsOf pairingId h).count .wrong ≤ maxPairingAttempts
  right : (attemptsOf pairingId h).count .right ≤ 1

theorem not_spent_of_missing {attempts : List Attempt} (h : ∀ a ∈ attempts, a = .missing) :
    attempts.count .wrong = 0 ∧ ¬Spent attempts := by
  have none (a : Attempt) (ha : a ≠ .missing) : a ∉ attempts := fun hmem => ha (h a hmem)
  have zero : attempts.count .wrong = 0 := List.count_eq_zero.mpr (none _ (by decide))
  refine ⟨zero, ?_⟩
  intro hspent
  rcases hspent with hright | hexpired | hwrong
  · exact none _ (by decide) hright
  · exact none _ (by decide) hexpired
  · rw [zero] at hwrong
    exact absurd hwrong (by decide)

/-- What neither begins this pairing nor attempts it leaves its tally alone. -/
theorem Tally.elsewhere {pairingId : String} {s s' : CompanionTrustStore} {h e : List PairingEvent}
    (ht : Tally pairingId s h) (hattempts : attemptsOf pairingId e = [])
    (hpending : s'.pendingPairings[pairingId]? = s.pendingPairings[pairingId]?) :
    Tally pairingId s' (h ++ e) := by
  have same : attemptsOf pairingId (h ++ e) = attemptsOf pairingId h := by
    rw [attemptsOf_append, hattempts, List.append_nil]
  refine ⟨?_, ?_, ?_, ?_⟩
  · rw [same]
    intro hunbegun
    exact ht.unbegun (fun c hc => hunbegun c (List.mem_append_left e hc))
  · rw [same, hpending]
    intro c hc
    obtain ⟨c₀, hbegun, hrest⟩ := ht.pending c hc
    exact ⟨c₀, List.mem_append_left e hbegun, hrest⟩
  · rw [same]
    exact ht.wrong
  · rw [same]
    exact ht.right

/-- A pairing that was not begun before starts with all its attempts. -/
theorem Tally.begin {c : PairingChallenge} {s : CompanionTrustStore} {h : List PairingEvent}
    (ht : Tally c.pairingId s h) (hnew : ∀ c₀, .begun c₀ ∈ h → c₀.pairingId ≠ c.pairingId)
    (hfull : c.attemptsRemaining = maxPairingAttempts) :
    Tally c.pairingId { s with pendingPairings := s.pendingPairings.insert c.pairingId c }
      (h ++ [.begun c]) := by
  have same : attemptsOf c.pairingId (h ++ [.begun c]) = attemptsOf c.pairingId h := by simp
  obtain ⟨zero, unspent⟩ := not_spent_of_missing (ht.unbegun hnew)
  refine ⟨?_, ?_, ?_, ?_⟩
  · intro hunbegun
    exact absurd rfl (hunbegun c (by simp))
  · intro c' hc'
    rw [Keyed.lookup_insert, if_pos rfl] at hc'
    cases hc'
    refine ⟨c, by simp, rfl, ?_, ?_⟩
    · rw [same]
      exact unspent
    · rw [same, zero, Nat.sub_zero, ← hfull]
  · rw [same]
    exact ht.wrong
  · rw [same]
    exact ht.right

/-- One more attempt, at a challenge that is pending, and what it may leave behind. -/
theorem Tally.attempt {pairingId : String} {s s' : CompanionTrustStore} {h : List PairingEvent}
    {c : PairingChallenge} (ht : Tally pairingId s h)
    (hc : s.pendingPairings[pairingId]? = some c) (a : Attempt)
    (hleft : ∀ c' : PairingChallenge, s'.pendingPairings[pairingId]? = some c' →
      a = .wrong ∧ c.attemptsRemaining - 1 ≠ 0 ∧
        c' = { c with attemptsRemaining := c.attemptsRemaining - 1 }) :
    Tally pairingId s' (h ++ [.tried pairingId a]) := by
  obtain ⟨c₀, hbegun, hid, hunspent, hsame⟩ := ht.pending c hc
  have snoc : attemptsOf pairingId (h ++ [.tried pairingId a]) = attemptsOf pairingId h ++ [a] := by
    simp
  have noRight : Attempt.right ∉ attemptsOf pairingId h := fun hr => hunspent (Or.inl hr)
  have noExpired : Attempt.expired ∉ attemptsOf pairingId h :=
    fun he => hunspent (Or.inr (Or.inl he))
  have left : (attemptsOf pairingId h).count .wrong < maxPairingAttempts :=
    Nat.lt_of_not_le (fun hw => hunspent (Or.inr (Or.inr hw)))
  have remaining : c.attemptsRemaining =
      maxPairingAttempts - (attemptsOf pairingId h).count .wrong := by rw [hsame]
  refine ⟨?_, ?_, ?_, ?_⟩
  · intro hunbegun
    exact absurd hid (hunbegun c₀ (List.mem_append_left _ hbegun))
  · intro c' hc'
    obtain ⟨ha, hmore, hc'⟩ := hleft c' hc'
    have count : (attemptsOf pairingId h ++ [a]).count .wrong =
        (attemptsOf pairingId h).count .wrong + 1 := by simp [ha]
    refine ⟨c₀, List.mem_append_left _ hbegun, hid, ?_, ?_⟩
    · rw [snoc]
      intro hspent
      rcases hspent with hr | he | hw
      · simp [noRight, ha] at hr
      · simp [noExpired, ha] at he
      · omega
    · rw [snoc, count, hc', remaining, hsame]
      congr 1
  · rw [snoc, List.count_append]
    have one : [a].count .wrong ≤ 1 := List.count_le_length
    omega
  · rw [snoc, List.count_append, List.count_eq_zero.mpr noRight]
    have one : [a].count .right ≤ 1 := List.count_le_length
    omega

theorem Tally.missing {pairingId : String} {s : CompanionTrustStore} {h : List PairingEvent}
    (ht : Tally pairingId s h) (hnone : s.pendingPairings[pairingId]? = none) :
    Tally pairingId s (h ++ [.tried pairingId .missing]) := by
  have snoc : attemptsOf pairingId (h ++ [.tried pairingId .missing]) =
      attemptsOf pairingId h ++ [.missing] := by simp
  refine ⟨?_, ?_, ?_, ?_⟩
  · intro hunbegun a ha
    rw [snoc] at ha
    rcases List.mem_append.mp ha with hbefore | hlast
    · exact ht.unbegun (fun c hc => hunbegun c (List.mem_append_left _ hc)) a hbefore
    · exact List.mem_singleton.mp hlast
  · intro c hc
    rw [hnone] at hc
    cases hc
  · rw [snoc, List.count_append]
    exact ht.wrong
  · rw [snoc, List.count_append]
    exact ht.right

section

variable {toLowercase : Char → List Char}

theorem Tally.confirm {pairingId : String} {s : CompanionTrustStore} {h : List PairingEvent}
    (ht : Tally pairingId s h) (shortCode : String) (now : UInt64) :
    Tally pairingId (s.confirmPairing pairingId shortCode now).1
      (h ++ [.tried pairingId (Attempt.of (s.confirmPairing pairingId shortCode now).2)]) := by
  have gone : (s.pendingPairings.erase pairingId)[pairingId]? = none := by
    rw [Keyed.lookup_erase, if_pos rfl]
  rcases s.confirmPairing_cases pairingId shortCode now with ⟨hnone, e, he, hcode⟩ |
    ⟨c, hc, ⟨-, e, he, hcode⟩ | ⟨-, -, e, he, hcode⟩ | ⟨-, -, he⟩⟩
  · have missing : Attempt.of (.error e) = .missing := by simp [Attempt.of, hcode]
    rw [he, missing]
    exact ht.missing hnone
  · rw [he]
    apply ht.attempt hc
    intro c' hc'
    simp only [gone, reduceCtorEq] at hc'
  · have wrong : Attempt.of (.error e) = .wrong := by simp [Attempt.of, hcode]
    rw [he, wrong]
    apply ht.attempt hc
    intro c' hc'
    dsimp only at hc'
    split_ifs at hc' with hlast
    · rw [gone] at hc'
      cases hc'
    · rw [Keyed.lookup_insert, if_pos rfl] at hc'
      exact ⟨rfl, hlast, (Option.some.inj hc').symm⟩
  · rw [he]
    apply ht.attempt hc
    intro c' hc'
    simp only [gone, reduceCtorEq] at hc'

/-- No confirmation touches another pairing's challenge. -/
theorem confirmPairing_other (s : CompanionTrustStore) {pairingId id : String}
    (hid : id ≠ pairingId) (shortCode : String) (now : UInt64) :
    (s.confirmPairing pairingId shortCode now).1.pendingPairings[id]? =
      s.pendingPairings[id]? := by
  rcases s.confirmPairing_cases pairingId shortCode now with ⟨-, e, he, -⟩ |
    ⟨c, -, ⟨-, e, he, -⟩ | ⟨-, -, e, he, -⟩ | ⟨-, -, he⟩⟩
  · rw [he]
  · rw [he, Keyed.lookup_erase, if_neg hid]
  · rw [he]
    dsimp only
    split_ifs
    · rw [Keyed.lookup_erase, if_neg hid]
    · rw [Keyed.lookup_insert, if_neg hid]
  · rw [he, Keyed.lookup_erase, if_neg hid]

theorem beginPairing_cases (toLowercase : Char → List Char) (s : CompanionTrustStore)
    (request : PairingRequest) (now : UInt64) (draws : PairingDraws) :
    (∃ e, s.beginPairing toLowercase request now draws = (s, .error e)) ∨
    ∃ c, c.attemptsRemaining = maxPairingAttempts ∧
      s.beginPairing toLowercase request now draws =
        ({ s with pendingPairings := s.pendingPairings.insert c.pairingId c }, .ok c) := by
  unfold CompanionTrustStore.beginPairing
  split
  · exact Or.inl ⟨_, rfl⟩
  · split
    · exact Or.inl ⟨_, rfl⟩
    · exact Or.inr ⟨CompanionTrustStore.newChallenge toLowercase request now draws, rfl, rfl⟩

/-- With distinct pairing ids every call keeps the tally of every pairing. -/
theorem tally_step {pairingId : String} (s : CompanionTrustStore) (h : List PairingEvent)
    (op : TrustOp)
    (ht : (h.filterMap PairingEvent.begunId).Nodup → Tally pairingId s h)
    (distinct : ((h ++ op.traces toLowercase s).filterMap PairingEvent.begunId).Nodup) :
    Tally pairingId (op.step toLowercase s) (h ++ op.traces toLowercase s) := by
  rw [List.filterMap_append, List.nodup_append] at distinct
  obtain ⟨before, -, apart⟩ := distinct
  have ht := ht before
  cases op with
  | beginPairing request now draws =>
    rcases beginPairing_cases toLowercase s request now draws with ⟨e, he⟩ |
      ⟨c, hfull, he⟩
    · simpa [TrustOp.step, TrustOp.traces, he] using ht
    · simp only [TrustOp.step, TrustOp.traces, he] at apart ⊢
      by_cases hid : c.pairingId = pairingId
      · subst hid
        refine ht.begin ?_ hfull
        intro c₀ hc₀
        exact apart c₀.pairingId (List.mem_filterMap.mpr ⟨.begun c₀, hc₀, rfl⟩) c.pairingId
          (by simp [PairingEvent.begunId])
      · exact ht.elsewhere rfl (by rw [Keyed.lookup_insert, if_neg (Ne.symm hid)])
  | confirmPairing id shortCode now =>
    by_cases hid : id = pairingId
    · subst hid
      exact ht.confirm shortCode now
    · exact ht.elsewhere (attemptsOf_other hid _)
        (confirmPairing_other s (Ne.symm hid) shortCode now)
  | revokeDevice deviceId now =>
    exact ht.elsewhere rfl
      (by rw [TrustOp.step, CompanionTrustStore.revokeDevice_pendingPairings])

end

theorem tally_run (toLowercase : Char → List Char) (ops : List TrustOp)
    (distinct : ((pairingTrace toLowercase ops).filterMap PairingEvent.begunId).Nodup)
    (pairingId : String) :
    Tally pairingId (run (TrustOp.step toLowercase) CompanionTrustStore.empty ops)
      (pairingTrace toLowercase ops) := by
  have start : ((([] : List PairingEvent).filterMap PairingEvent.begunId).Nodup →
      Tally pairingId CompanionTrustStore.empty []) := by
    intro _
    refine ⟨?_, ?_, ?_, ?_⟩
    · intro _ a ha
      cases ha
    · intro c hc
      simp [CompanionTrustStore.empty] at hc
    · exact Nat.zero_le _
    · exact Nat.zero_le _
  have h := run_history
    (fun s h => (h.filterMap PairingEvent.begunId).Nodup → Tally pairingId s h)
    (@tally_step toLowercase pairingId) ops start
  rw [List.nil_append] at h
  exact h distinct

/-- The bound on guessing the code of one pairing over a whole run. -/
structure GuessesBounded (toLowercase : Char → List Char) (ops : List TrustOp)
    (pairingId : String) : Prop where
  wrong : (attemptsOf pairingId (pairingTrace toLowercase ops)).count .wrong ≤ maxPairingAttempts
  right : (attemptsOf pairingId (pairingTrace toLowercase ops)).count .right ≤ 1
  /-- Only the code of a challenge that was begun, has not expired and is not spent is right. -/
  genuine : ∀ pre shortCode now post trusted,
    ops = pre ++ .confirmPairing pairingId shortCode now :: post →
    ((run (TrustOp.step toLowercase) CompanionTrustStore.empty pre).confirmPairing pairingId
      shortCode now).2 = .ok trusted →
    ¬Spent (attemptsOf pairingId (pairingTrace toLowercase pre)) ∧
      ∃ c, .begun c ∈ pairingTrace toLowercase pre ∧ c.pairingId = pairingId ∧
        now ≤ c.expiresAtUnixMs ∧ shortCode = c.shortCode ∧ trusted.deviceId = c.deviceId
  /-- Once it has succeeded, been found expired or been exhausted, every later attempt fails. -/
  finished : ∀ pre shortCode now post,
    ops = pre ++ .confirmPairing pairingId shortCode now :: post →
    Spent (attemptsOf pairingId (pairingTrace toLowercase pre)) →
    ∃ e, ((run (TrustOp.step toLowercase) CompanionTrustStore.empty pre).confirmPairing pairingId
      shortCode now).2 = .error e ∧ e.errorCode = "COMPANION_PAIRING_NOT_FOUND"

/-- What one confirmation leaves alone, from any state. -/
structure ConfirmsOnly (s : CompanionTrustStore) (pairingId shortCode : String) (now : UInt64) :
    Prop where
  refused : ∀ e, (s.confirmPairing pairingId shortCode now).2 = .error e →
    (s.confirmPairing pairingId shortCode now).1.trustedDevices = s.trustedDevices
  challenges : ∀ id, id ≠ pairingId →
    (s.confirmPairing pairingId shortCode now).1.pendingPairings[id]? = s.pendingPairings[id]?
  records : ∀ d, (∀ c : PairingChallenge, s.pendingPairings[pairingId]? = some c →
      c.deviceId ≠ d) →
    (s.confirmPairing pairingId shortCode now).1.trustedDevices[d]? = s.trustedDevices[d]?

theorem confirms_only (s : CompanionTrustStore) (pairingId shortCode : String) (now : UInt64) :
    ConfirmsOnly s pairingId shortCode now := by
  refine ⟨?_, fun id hid => confirmPairing_other s hid shortCode now, ?_⟩
  · intro e he
    rcases s.confirmPairing_trusted pairingId shortCode now with ⟨-, h⟩ | ⟨c, -, h⟩
    · exact h
    · rw [h] at he
      cases he
  · intro d hd
    rcases s.confirmPairing_trusted pairingId shortCode now with ⟨-, h⟩ | ⟨c, hc, h⟩
    · rw [h]
    · rw [h, Keyed.lookup_insert, if_neg (Ne.symm (hd c hc))]

theorem guesses_bounded (toLowercase : Char → List Char) (ops : List TrustOp)
    (distinct : ((pairingTrace toLowercase ops).filterMap PairingEvent.begunId).Nodup)
    (pairingId : String) : GuessesBounded toLowercase ops pairingId := by
  have whole := tally_run toLowercase ops distinct pairingId
  have earlier {pre post : List TrustOp} (he : ops = pre ++ post) :
      Tally pairingId (run (TrustOp.step toLowercase) CompanionTrustStore.empty pre)
        (pairingTrace toLowercase pre) := by
    apply tally_run
    rw [he, pairingTrace, eventsOf_append, List.filterMap_append, List.nodup_append] at distinct
    exact distinct.1
  refine ⟨whole.wrong, whole.right, ?_, ?_⟩
  · intro pre shortCode now post trusted he hok
    have tally := earlier he
    generalize run (TrustOp.step toLowercase) CompanionTrustStore.empty pre = s at hok tally
    rcases s.confirmPairing_cases pairingId shortCode now with ⟨-, e, h, -⟩ |
      ⟨c, hc, ⟨-, e, h, -⟩ | ⟨-, -, e, h, -⟩ | ⟨hlive, hcode, h⟩⟩
    · rw [h] at hok
      cases hok
    · rw [h] at hok
      cases hok
    · rw [h] at hok
      cases hok
    · rw [h] at hok
      cases hok
      obtain ⟨c₀, hbegun, hid, hunspent, hsame⟩ := tally.pending c hc
      rw [hsame] at hlive hcode
      exact ⟨hunspent, c₀, hbegun, hid, UInt64.not_lt.mp hlive, hcode.symm, by rw [hsame]; rfl⟩
  · intro pre shortCode now post he hspent
    have tally := earlier he
    generalize run (TrustOp.step toLowercase) CompanionTrustStore.empty pre = s at tally
    have none : s.pendingPairings[pairingId]? = none := by
      cases hc : s.pendingPairings[pairingId]? with
      | none => rfl
      | some c =>
        obtain ⟨-, -, -, hunspent, -⟩ := tally.pending c hc
        exact absurd hspent hunspent
    rcases s.confirmPairing_cases pairingId shortCode now with ⟨-, e, h, hcode⟩ | ⟨c, hc, -⟩
    · exact ⟨e, by rw [h], hcode⟩
    · rw [none] at hc
      cases hc

/-- In every run with distinct pairing ids the guesses at every pairing are bounded, and in every
state a confirmation touches its own challenge and device only. -/
theorem pairing_attempts_bounded (toLowercase : Char → List Char) (ops : List TrustOp)
    (distinct : ((pairingTrace toLowercase ops).filterMap PairingEvent.begunId).Nodup) :
    (∀ pairingId, GuessesBounded toLowercase ops pairingId) ∧
      ∀ s pairingId shortCode now, ConfirmsOnly s pairingId shortCode now :=
  ⟨guesses_bounded toLowercase ops distinct, confirms_only⟩

/-- Two pairings with wrong, right and late attempts mixed. -/
def mixedAttempts : List TrustOp :=
  [.beginPairing ⟨"phone", "Phone", upperFingerprint⟩ 1000 ⟨1, 42⟩,
    .beginPairing ⟨"tablet", "Tablet", upperFingerprint⟩ 1000 ⟨2, 43⟩,
    .confirmPairing "pair-0000000000000001" "000043" 2000,
    .confirmPairing "pair-0000000000000002" "000043" 900000,
    .confirmPairing "pair-0000000000000001" "000042" 3000,
    .confirmPairing "pair-0000000000000001" "000042" 4000]

theorem pairing_attempts_bounded_mixed :
    (attemptsOf "pair-0000000000000001" (pairingTrace asciiLowercase mixedAttempts)).count .right ≤
      1 := by
  have distinct : ((pairingTrace asciiLowercase mixedAttempts).filterMap
      PairingEvent.begunId).Nodup := by decide
  exact ((pairing_attempts_bounded asciiLowercase mixedAttempts distinct).1 _).right

example : attemptsOf "pair-0000000000000001" (pairingTrace asciiLowercase mixedAttempts) =
    [.wrong, .right, .missing] := by decide

end AdbControl.Companion
