import AdbControl.Wireless.Pairing

namespace AdbControl.Wireless

open Framework

namespace State

variable {adb : Except AppError String} {s : State} {k : Nat} {r : Request} {t : Turn}

/-- What is run in Core before a request fails -/
inductive Seen (k : Nat) : Phase → List Note → Prop
  | nothing (phase : Phase) : Seen k phase []
  | listed (sessionId : String) (p : PendingPairing) (output : AdbCommandOutput) :
    Seen k (.discovering sessionId p) [.ran k mdnsArgs output]
  | paired (sessionId : String) (p : PendingPairing) (endpoint : String) (output : AdbCommandOutput) :
    Seen k (.pairing sessionId p endpoint) [.ran k (pairArgs endpoint p.password) output]

/-- All that a turn can do -/
inductive Moves (s : State) (k : Nat) (r : Request) : Moved → Prop
  | same : Moves s k r ⟨r, s.pending, []⟩
  | rejected (e : AppError) (phase : r.phase = .idle) :
    Moves s k r ⟨r, s.pending, [.answered k (.error e)]⟩
  | requested (sessionId : String) (phase : r.phase = .idle) :
    Moves s k r ⟨⟨.calling sessionId, true⟩, s.pending, [.requested k sessionId]⟩
  | began (sessionId : String) (p : PendingPairing) (phase : r.phase = .calling sessionId)
    (live : s.live[sessionId]? = some p) :
    Moves s k r ⟨⟨.discovering sessionId p, r.awaited⟩, s.live, [.began k sessionId p]⟩
  | listed (sessionId : String) (p : PendingPairing) (output : AdbCommandOutput) (endpoint : String)
    (phase : r.phase = .discovering sessionId p) (exit : output.exitCode = 0)
    (found : findPairingEndpoint output.stdout p.serviceName = some endpoint) :
    Moves s k r ⟨⟨.pairing sessionId p endpoint, r.awaited⟩, s.pending, [.ran k mdnsArgs output]⟩
  | paired (sessionId : String) (p : PendingPairing) (endpoint : String) (output : AdbCommandOutput)
    (phase : r.phase = .pairing sessionId p endpoint) (confirms : confirmsPairing output = true) :
    Moves s k r ⟨⟨.confirmed sessionId p endpoint, r.awaited⟩, s.pending,
      [.ran k (pairArgs endpoint p.password) output]⟩
  | finished (sessionId : String) (p : PendingPairing) (endpoint : String)
    (phase : r.phase = .confirmed sessionId p endpoint) :
    Moves s k r ⟨.idle, s.pending.erase sessionId,
      .closed sessionId :: if r.awaited then [.answered k (.ok ⟨p.serviceName, endpoint⟩)] else []⟩
  | again (sessionId : String) (pending : Keyed String PendingPairing) (seen : List Note)
    (pending_eq : pending = s.pending ∨ pending = s.live) (seen_eq : Seen k r.phase seen)
    (early : r.phase.isEarly = true) :
    Moves s k r ⟨⟨.waiting sessionId, true⟩, pending, seen⟩
  | failed (pending : Keyed String PendingPairing) (seen : List Note) (answer : Option AppError)
    (pending_eq : pending = s.pending ∨ pending = s.live) (seen_eq : Seen k r.phase seen) :
    Moves s k r ⟨.idle, pending, seen ++ answer.toList.map fun e => .answered k (.error e)⟩
  | retried (sessionId : String) (phase : r.phase = .waiting sessionId) :
    Moves s k r ⟨⟨.calling sessionId, true⟩, s.pending, []⟩
  | lost (e : AppError) :
    Moves s k r ⟨⟨r.phase, false⟩, s.pending, [.answered k (.error e)]⟩

theorem fail_moves {pending : Keyed String PendingPairing} {sessionId : String} {seen : List Note}
    {e : AppError} (hpending : pending = s.pending ∨ pending = s.live) (hseen : Seen k r.phase seen)
    (hearly : e.errorCode = "ADB_QR_PAIRING_NOT_DISCOVERED" → r.phase.isEarly = true) :
    Moves s k r (fail k r pending sessionId seen e) := by
  rw [fail]
  split_ifs with hawaited hcode
  · exact .again sessionId pending seen hpending hseen (hearly hcode)
  · exact .failed pending seen (some e) hpending hseen
  · have hquiet := Moves.failed (s := s) pending seen none hpending hseen
    rwa [Option.toList_none, List.map_nil, List.append_nil] at hquiet

theorem runAdb_cases {adbPath : String} {args : List String} {outcome : Option AdbCommandOutput}
    {e : AppError} (h : runAdb adbPath args outcome = .error e) :
    e.errorCode ≠ "ADB_QR_PAIRING_NOT_DISCOVERED" := by
  simp only [runAdb, validateAdbArgs] at h
  split_ifs at h
  · cases h
    decide
  · cases outcome with
    | none =>
      cases h
      show "ADB_PROCESS_SPAWN_FAILED" ≠ "ADB_QR_PAIRING_NOT_DISCOVERED"
      decide
    | some output => cases h

theorem move_moves (s : State) (k : Nat) (r : Request) (t : Turn) : Moves s k r (s.move adb k r t) := by
  obtain ⟨phase, awaited⟩ := r
  simp only [move]
  split
  next sessionId =>
    split_ifs
    · exact .rejected _ rfl
    · exact .requested _ rfl
  next sessionId =>
    split
    next e => exact fail_moves (.inl rfl) (.nothing _) (fun _ => rfl)
    next =>
      split
      next => exact fail_moves (.inr rfl) (.nothing _) (fun _ => rfl)
      next p hlive => exact .began _ _ rfl hlive
  next sessionId p outcome =>
    split
    next e => exact fail_moves (.inl rfl) (.nothing _) (fun _ => rfl)
    next output =>
      split_ifs with hexit
      · exact fail_moves (.inl rfl) (.listed _ _ _) (fun _ => rfl)
      · split
        next => exact fail_moves (.inl rfl) (.listed _ _ _) (fun _ => rfl)
        next endpoint hfound => exact .listed _ _ _ _ rfl (not_not.mp hexit) hfound
  next sessionId p endpoint outcome =>
    split
    next e hrun => exact fail_moves (.inl rfl) (.nothing _) fun hcode => (runAdb_cases hrun hcode).elim
    next output =>
      split_ifs with hconfirms
      · exact .paired _ _ _ _ rfl hconfirms
      · exact fail_moves (.inl rfl) (.paired _ _ _ _) fun hcode => absurd hcode (by decide)
  next sessionId p endpoint => exact .finished _ _ _ rfl
  next sessionId => exact .retried _ rfl
  next => exact .failed _ [] (some _) (.inl rfl) (.nothing _)
  next => exact .failed _ [] (some _) (.inl rfl) (.nothing _)
  next =>
    split_ifs
    · exact .lost _
    · exact .same
  next =>
    split_ifs
    · exact .lost _
    · exact .same
  next =>
    split_ifs
    · exact .lost _
    · exact .same
  next => exact .same

section Sessions

/-- What is seen of the session with this id -/
def about (sessionId : String) : Note → Bool
  | .issued other _ => other = sessionId
  | .closed other => other = sessionId
  | _ => false

variable {h more : List Note} {m : Moved}

theorem lastOf_quiet {p : Note → Bool} (hmore : more.filter p = []) : lastOf p (h ++ more) = lastOf p h := by
  rw [lastOf, List.filter_append, hmore, List.append_nil, lastOf]

theorem lastOf_new {p : Note → Bool} {e : Note} (hmore : more.filter p = [e]) :
    lastOf p (h ++ more) = some e := by
  rw [lastOf, List.filter_append, hmore, List.getLast?_concat]

theorem filter_only {p : Note → Bool} {e : Note} {c : Prop} [Decidable c] (hp : p e = decide c) :
    [e].filter p = if c then [e] else [] := by
  rw [List.filter_singleton, hp]
  by_cases hc : c <;> simp [hc]

theorem Seen.quiet {phase : Phase} {seen : List Note} (hs : Seen k phase seen) (sessionId : String) :
    seen.filter (about sessionId) = [] := by
  cases hs <;> rfl

/-- A turn closes the session it has paired, or none. -/
theorem Moves.sessions (hm : Moves s k r m) :
    (∀ sessionId, m.notes.filter (about sessionId) = []) ∧ (m.pending = s.pending ∨ m.pending = s.live) ∨
      ∃ closed, m.pending = s.pending.erase closed ∧ ∀ sessionId,
        m.notes.filter (about sessionId) = if closed = sessionId then [.closed closed] else [] := by
  cases hm with
  | same => exact .inl ⟨fun _ => rfl, .inl rfl⟩
  | rejected e _ => exact .inl ⟨fun _ => rfl, .inl rfl⟩
  | requested sessionId _ => exact .inl ⟨fun _ => rfl, .inl rfl⟩
  | began sessionId p _ _ => exact .inl ⟨fun _ => rfl, .inr rfl⟩
  | listed sessionId p output endpoint _ _ _ => exact .inl ⟨fun _ => rfl, .inl rfl⟩
  | paired sessionId p endpoint output _ _ => exact .inl ⟨fun _ => rfl, .inl rfl⟩
  | finished sessionId p endpoint _ =>
    refine .inr ⟨sessionId, rfl, ?_⟩
    intro other
    have answer : (if r.awaited then [Note.answered k (.ok ⟨p.serviceName, endpoint⟩)] else []).filter
        (about other) = [] := by split_ifs <;> rfl
    rw [← List.singleton_append, List.filter_append, answer, List.append_nil]
    exact filter_only rfl
  | again sessionId pending seen hpending hseen _ => exact .inl ⟨hseen.quiet, hpending⟩
  | failed pending seen answer hpending hseen =>
    refine .inl ⟨?_, hpending⟩
    intro sessionId
    rw [List.filter_append, hseen.quiet]
    cases answer <;> rfl
  | retried sessionId _ => exact .inl ⟨fun _ => rfl, .inl rfl⟩
  | lost e => exact .inl ⟨fun _ => rfl, .inl rfl⟩

theorem lookup_live (sessionId : String) (p : PendingPairing) :
    s.live[sessionId]? = some p ↔ s.pending[sessionId]? = some p ∧ s.clock < p.expiresAt := by
  rw [live, Keyed.lookup_retain, decide_eq_true_eq]

/-- The manager knows the sessions that were issued and not closed since, as long as they last. -/
structure Known (clock : Nat) (pending : Keyed String PendingPairing) (h : List Note) : Prop where
  issued : ∀ sessionId p, pending[sessionId]? = some p →
    lastOf (about sessionId) h = some (.issued sessionId p)
  kept : ∀ sessionId p, lastOf (about sessionId) h = some (.issued sessionId p) → clock < p.expiresAt →
    pending[sessionId]? = some p

theorem Known.live (hk : Known s.clock s.pending h) : Known s.clock s.live h := by
  constructor
  · intro sessionId p hlive
    exact hk.issued _ _ ((lookup_live _ _).mp hlive).1
  · intro sessionId p hlast hclock
    exact (lookup_live _ _).mpr ⟨hk.kept _ _ hlast hclock, hclock⟩

theorem Known.quiet {clock : Nat} {pending : Keyed String PendingPairing} (hk : Known clock pending h)
    (hmore : ∀ sessionId, more.filter (about sessionId) = []) : Known clock pending (h ++ more) := by
  constructor
  · intro sessionId p hp
    rw [lastOf_quiet (hmore sessionId)]
    exact hk.issued _ _ hp
  · intro sessionId p hlast
    rw [lastOf_quiet (hmore sessionId)] at hlast
    exact hk.kept _ _ hlast

theorem Known.erase {clock : Nat} {pending : Keyed String PendingPairing} (hk : Known clock pending h)
    {closed : String} (hmore : ∀ sessionId, more.filter (about sessionId) =
      if closed = sessionId then [.closed closed] else []) :
    Known clock (pending.erase closed) (h ++ more) := by
  constructor
  · intro sessionId p hp
    rw [Keyed.lookup_erase] at hp
    split_ifs at hp with hsame
    have hquiet := hmore sessionId
    rw [if_neg (Ne.symm hsame)] at hquiet
    rw [lastOf_quiet hquiet]
    exact hk.issued _ _ hp
  · intro sessionId p hlast hclock
    by_cases hsame : closed = sessionId
    · have hnew := hmore sessionId
      rw [if_pos hsame] at hnew
      rw [lastOf_new hnew] at hlast
      cases hlast
    · have hquiet := hmore sessionId
      rw [if_neg hsame] at hquiet
      rw [lastOf_quiet hquiet] at hlast
      rw [Keyed.lookup_erase, if_neg (Ne.symm hsame)]
      exact hk.kept _ _ hlast hclock

theorem Known.insert {clock : Nat} {pending : Keyed String PendingPairing} (hk : Known clock pending h)
    (sessionId : String) (p : PendingPairing) :
    Known clock (pending.insert sessionId p) (h ++ [.issued sessionId p]) := by
  have newest (other : String) : [Note.issued sessionId p].filter (about other) =
      if sessionId = other then [.issued sessionId p] else [] := filter_only rfl
  constructor
  · intro other q hq
    have hnew := newest other
    rcases Keyed.lookup_insert_cases hq with ⟨rfl, rfl⟩ | ⟨hne, hq⟩
    · rw [if_pos rfl] at hnew
      exact lastOf_new hnew
    · rw [if_neg (Ne.symm hne)] at hnew
      rw [lastOf_quiet hnew]
      exact hk.issued _ _ hq
  · intro other q hlast hclock
    have hnew := newest other
    rw [Keyed.lookup_insert]
    by_cases hsame : sessionId = other
    · rw [if_pos hsame] at hnew
      rw [lastOf_new hnew] at hlast
      cases hlast
      rw [if_pos rfl]
    · rw [if_neg hsame] at hnew
      rw [lastOf_quiet hnew] at hlast
      rw [if_neg (Ne.symm hsame)]
      exact hk.kept _ _ hlast hclock

theorem Known.step (hk : Known s.clock s.pending h) (a : Act) :
    Known (step adb s a).clock (step adb s a).pending (h ++ notes adb s a) := by
  cases a with
  | tick d =>
    refine Known.quiet ⟨hk.issued, ?_⟩ fun _ => rfl
    intro sessionId p hlast hclock
    exact hk.kept _ _ hlast (Nat.lt_of_le_of_lt (Nat.le_add_right _ _) hclock)
  | create sessionId name password rendered =>
    simp only [State.step, notes]
    split_ifs
    · exact hk.live.insert _ _
    · exact hk.quiet fun _ => rfl
  | cancel sessionId =>
    refine hk.erase ?_
    intro other
    exact filter_only rfl
  | turn k t =>
    simp only [State.step, notes]
    split
    next r hr =>
      rcases (@move_moves adb s k r t).sessions with ⟨hquiet, hpending⟩ | ⟨closed, hpending, hclosed⟩
      · rcases hpending with hpending | hpending <;> rw [hpending]
        · exact hk.quiet hquiet
        · exact hk.live.quiet hquiet
      · rw [hpending]
        exact hk.erase hclosed
    next => exact hk.quiet fun _ => rfl

theorem known_start (requests : Nat) : Known (start requests).clock (start requests).pending [] := by
  constructor
  · intro sessionId p hp
    simp [start] at hp
  · intro sessionId p hlast
    cases hlast

/-- In every run, a request gets past the session check exactly when the last that happened to its
session is that it was issued, and its time has not run out. -/
theorem pairing_begins_iff (path : String) (requests : Nat) (acts : List Act) (k : Nat) (sessionId : String) :
    let s := run (step (.ok path)) (start requests) acts
    let h := eventsOf (step (.ok path)) (notes (.ok path)) (start requests) acts
    s.requests[k]? = some ⟨.calling sessionId, true⟩ →
      (∀ p, notes (.ok path) s (.turn k .call) = [.began k sessionId p] ↔
        lastOf (about sessionId) h = some (.issued sessionId p) ∧ s.clock < p.expiresAt) ∧
      ((∀ p, lastOf (about sessionId) h = some (.issued sessionId p) → p.expiresAt ≤ s.clock) →
        notes (.ok path) s (.turn k .call) = [.answered k (.error sessionInvalid)]) := by
  intro s h hcalling
  have hknown : Known s.clock s.pending h :=
    run_history (fun (s : State) h => Known s.clock s.pending h) (fun _ _ a hk => hk.step a) acts (known_start requests)
  have hopen (p : PendingPairing) : s.live[sessionId]? = some p ↔
      lastOf (about sessionId) h = some (.issued sessionId p) ∧ s.clock < p.expiresAt := by
    rw [lookup_live]
    constructor
    · intro hp
      exact ⟨hknown.issued _ _ hp.1, hp.2⟩
    · intro hp
      exact ⟨hknown.kept _ _ hp.1 hp.2, hp.2⟩
  have hnotes (p : Option PendingPairing) (hp : s.live[sessionId]? = p) :
      notes (.ok path) s (.turn k .call) =
        p.elim [.answered k (.error sessionInvalid)] fun p => [.began k sessionId p] := by
    simp only [notes, hcalling, move, hp]
    cases p <;> rfl
  constructor
  · intro p
    rw [← hopen, hnotes _ rfl]
    cases s.live[sessionId]? <;> simp
  · intro hout
    have hnone : s.live[sessionId]? = none := by
      refine Option.eq_none_iff_forall_ne_some.mpr ?_
      intro p hp
      obtain ⟨hlast, hclock⟩ := (hopen p).mp hp
      exact Nat.not_lt.mpr (hout p hlast) hclock
    rw [hnotes _ hnone, Option.elim_none]

def newSession : List Act := [.create "c2Vzc2lvbg" (fun _ => 0) (fun _ => 1) true, .turn 0 (.request "c2Vzc2lvbg")]

theorem pairing_begins_newSession :
    notes (.ok "adb") (run (step (.ok "adb")) (start 1) newSession) (.turn 0 .call) =
      [.began 0 "c2Vzc2lvbg" ⟨"studio-AAAAAAAAAA", "BBBBBBBBBBBB", 120000000000⟩] := by
  have hcalling : (run (step (.ok "adb")) (start 1) newSession).requests[0]? =
      some ⟨.calling "c2Vzc2lvbg", true⟩ := by decide
  refine ((pairing_begins_iff "adb" 1 newSession 0 "c2Vzc2lvbg" hcalling).1 _).mpr ⟨?_, ?_⟩
  · rfl
  · decide

end Sessions

section Commands

/-- What is seen of a request at Core -/
def atCore (k : Nat) : Note → Bool
  | .requested j _ | .began j _ _ | .ran j _ _ => j = k
  | _ => false

def trail (k : Nat) (h : List Note) : List Note := h.filter (atCore k)

/-- The `adb pair` commands since the last request -/
def attempts : List Note → Nat :=
  List.foldl (fun n e =>
    match e with
    | .requested _ _ => 0
    | .ran _ ("pair" :: _) _ => n + 1
    | _ => n) 0

/-- A listing that succeeded and in which a line names the service, its type and the endpoint -/
def Lists (output : AdbCommandOutput) (serviceName endpoint : String) : Prop :=
  output.exitCode = 0 ∧ ∃ line ∈ lines output.stdout.toList, ∃ rest,
    splitWhitespace line = serviceName.toList :: serviceTypePairing :: endpoint.toList :: rest

/-- What stands in the trail of a request in this phase -/
def Backed (k : Nat) (l : List Note) : Phase → Prop
  | .idle => True
  | .calling _ | .waiting _ => attempts l = 0
  | .discovering sessionId p => attempts l = 0 ∧ [.began k sessionId p] <:+ l
  | .pairing sessionId p endpoint => attempts l = 0 ∧
    ∃ output, Lists output p.serviceName endpoint ∧ [.began k sessionId p, .ran k mdnsArgs output] <:+ l
  | .confirmed sessionId p endpoint =>
    ∃ output paired, Lists output p.serviceName endpoint ∧ confirmsPairing paired = true ∧
      [.began k sessionId p, .ran k mdnsArgs output, .ran k (pairArgs endpoint p.password) paired] <:+ l

/-- What has been seen before -/
def Justified (h : List Note) : Note → Prop
  | .began _ sessionId p => lastOf (about sessionId) h = some (.issued sessionId p)
  | .ran k args _ => ∃ sessionId p, attempts (trail k h) = 0 ∧
    (args = mdnsArgs ∧ [.began k sessionId p] <:+ trail k h ∨
      ∃ endpoint output, args = pairArgs endpoint p.password ∧ Lists output p.serviceName endpoint ∧
        [.began k sessionId p, .ran k mdnsArgs output] <:+ trail k h)
  | .answered k (.ok result) => ∃ sessionId p output paired,
    Lists output p.serviceName result.endpoint ∧ confirmsPairing paired = true ∧
      result.serviceName = p.serviceName ∧ [.began k sessionId p, .ran k mdnsArgs output,
        .ran k (pairArgs result.endpoint p.password) paired] <:+ trail k h
  | _ => True

variable {h more l : List Note} {m : Moved}

theorem attempts_snoc (l : List Note) (e : Note) : attempts (l ++ [e]) =
    match e with
    | .requested _ _ => 0
    | .ran _ ("pair" :: _) _ => attempts l + 1
    | _ => attempts l := by
  rw [attempts, List.foldl_append]
  rfl

theorem trail_append (k : Nat) (h more : List Note) : trail k (h ++ more) = trail k h ++ trail k more :=
  List.filter_append ..

theorem trail_own (e : Note) (he : atCore k e = true) : trail k (h ++ [e]) = trail k h ++ [e] := by
  have hself : trail k [e] = [e] := List.filter_eq_self.mpr (List.forall_mem_singleton.mpr he)
  rw [trail_append, hself]

theorem suffix_snoc {recent : List Note} (hl : recent <:+ l) (e : Note) : recent ++ [e] <:+ l ++ [e] := by
  obtain ⟨past, rfl⟩ := hl
  exact ⟨past, (List.append_assoc ..).symm⟩

theorem Seen.atCore {phase : Phase} {seen : List Note} (hs : Seen k phase seen) : trail k seen = seen := by
  cases hs with
  | nothing => rfl
  | listed sessionId p output => exact trail_own (h := []) _ (decide_eq_true rfl)
  | paired sessionId p endpoint output => exact trail_own (h := []) _ (decide_eq_true rfl)

/-- A request tries again only before its `adb pair`. -/
theorem Seen.early {phase : Phase} {seen : List Note} (hs : Seen k phase seen)
    (hearly : phase.isEarly = true) (hb : Backed k l phase) : attempts (l ++ seen) = 0 := by
  have hnone : attempts l = 0 := by
    cases phase with
    | calling sessionId => exact hb
    | discovering sessionId p => exact hb.1
    | idle => cases hearly
    | pairing sessionId p endpoint => cases hearly
    | confirmed sessionId p endpoint => cases hearly
    | waiting sessionId => cases hearly
  cases hs with
  | nothing => rwa [List.append_nil]
  | listed sessionId p output => exact (attempts_snoc _ _).trans hnone
  | paired sessionId p endpoint output => cases hearly

/-- A turn leaves in the trail what its new phase needs. -/
theorem Moves.backed (hm : Moves s k r m) (hb : Backed k (trail k h) r.phase) :
    Backed k (trail k (h ++ m.notes)) m.request.phase := by
  cases hm with
  | same => rwa [List.append_nil]
  | rejected e hphase =>
    rw [hphase]
    trivial
  | requested sessionId hphase =>
    rw [trail_own (.requested k sessionId) (decide_eq_true rfl)]
    exact attempts_snoc _ _
  | began sessionId p hphase hlive =>
    rw [hphase] at hb
    rw [trail_own (.began k sessionId p) (decide_eq_true rfl)]
    exact ⟨(attempts_snoc _ _).trans hb, List.suffix_append _ _⟩
  | listed sessionId p output endpoint hphase hexit hfound =>
    rw [hphase] at hb
    rw [trail_own (.ran k mdnsArgs output) (decide_eq_true rfl)]
    exact ⟨(attempts_snoc _ _).trans hb.1, output, ⟨hexit, findPairingEndpoint_spec hfound⟩,
      suffix_snoc hb.2 _⟩
  | paired sessionId p endpoint paired hphase hconfirms =>
    rw [hphase] at hb
    obtain ⟨-, output, hlists, hrecent⟩ := hb
    rw [trail_own (.ran k (pairArgs endpoint p.password) paired) (decide_eq_true rfl)]
    exact ⟨output, paired, hlists, hconfirms, suffix_snoc hrecent _⟩
  | finished sessionId p endpoint hphase => trivial
  | again sessionId pending seen hpending hseen hearly =>
    rw [trail_append, hseen.atCore]
    exact hseen.early hearly hb
  | failed pending seen answer hpending hseen => trivial
  | retried sessionId hphase =>
    rw [hphase] at hb
    rwa [List.append_nil]
  | lost e =>
    rw [trail_append]
    rwa [show trail k [.answered k (.error e)] = [] from rfl, List.append_nil]

theorem Seen.justified {phase : Phase} {seen : List Note} (hs : Seen k phase seen)
    (hb : Backed k (trail k h) phase) : EachAfter (fun pre e => Justified (h ++ pre) e) seen := by
  cases hs with
  | nothing => exact eachAfter_nil
  | listed sessionId p output =>
    rw [eachAfter_singleton, List.append_nil]
    exact ⟨sessionId, p, hb.1, .inl ⟨rfl, hb.2⟩⟩
  | paired sessionId p endpoint output =>
    rw [eachAfter_singleton, List.append_nil]
    obtain ⟨hnone, listing, hlists, hrecent⟩ := hb
    exact ⟨sessionId, p, hnone, .inr ⟨endpoint, listing, rfl, hlists, hrecent⟩⟩

/-- What a turn shows rests on what has been seen before. -/
theorem Moves.justified (hm : Moves s k r m) (hk : Known s.clock s.pending h)
    (hb : Backed k (trail k h) r.phase) : EachAfter (fun pre e => Justified (h ++ pre) e) m.notes := by
  cases hm with
  | same => exact eachAfter_nil
  | rejected e hphase => exact eachAfter_singleton.mpr trivial
  | requested sessionId hphase => exact eachAfter_singleton.mpr trivial
  | began sessionId p hphase hlive =>
    rw [eachAfter_singleton, List.append_nil]
    exact hk.issued _ _ ((lookup_live _ _).mp hlive).1
  | listed sessionId p output endpoint hphase hexit hfound =>
    rw [hphase] at hb
    exact (Seen.listed sessionId p output).justified hb
  | paired sessionId p endpoint output hphase hconfirms =>
    rw [hphase] at hb
    exact (Seen.paired sessionId p endpoint output).justified hb
  | finished sessionId p endpoint hphase =>
    rw [hphase] at hb
    rw [← List.singleton_append, eachAfter_append, eachAfter_singleton]
    refine ⟨trivial, ?_⟩
    split_ifs
    · rw [eachAfter_singleton, List.append_nil]
      obtain ⟨listing, paired, hlists, hconfirms, hrecent⟩ := hb
      refine ⟨sessionId, p, listing, paired, hlists, hconfirms, rfl, ?_⟩
      rw [trail_append]
      rwa [show trail k [.closed sessionId] = [] from rfl, List.append_nil]
    · exact eachAfter_nil
  | again sessionId pending seen hpending hseen hearly => exact hseen.justified hb
  | failed pending seen answer hpending hseen =>
    refine eachAfter_append.mpr ⟨hseen.justified hb, eachAfter_of_forall ?_⟩
    intro e he pre
    obtain ⟨error, -, rfl⟩ := List.mem_map.mp he
    trivial
  | retried sessionId hphase => exact eachAfter_nil
  | lost e => exact eachAfter_singleton.mpr trivial

/-- A turn of one request shows nothing at Core of another. -/
theorem Moves.elsewhere (hm : Moves s k r m) {j : Nat} (hj : k ≠ j) : trail j m.notes = [] := by
  have hseen {phase : Phase} {seen : List Note} (hs : Seen k phase seen) : trail j seen = [] := by
    cases hs <;> simp [trail, atCore, hj]
  cases hm with
  | same => rfl
  | rejected => rfl
  | requested => simp [trail, atCore, hj]
  | began => simp [trail, atCore, hj]
  | listed => simp [trail, atCore, hj]
  | paired => simp [trail, atCore, hj]
  | finished => split_ifs <;> rfl
  | again sessionId pending seen hpending hs hearly => exact hseen hs
  | failed pending seen answer hpending hs =>
    rw [trail_append, hseen hs]
    cases answer <;> rfl
  | retried => rfl
  | lost => rfl

structure Sound (s : State) (h : List Note) : Prop where
  known : Known s.clock s.pending h
  justified : EachAfter Justified h
  backed : ∀ k r, s.requests[k]? = some r → Backed k (trail k h) r.phase

/-- A step that shows nothing at Core -/
theorem Sound.aside (hs : Sound s h) {clock : Nat} {pending : Keyed String PendingPairing}
    (hknown : Known clock pending (h ++ more)) (hplain : ∀ e ∈ more, ∀ pre, Justified pre e)
    (hquiet : ∀ k, trail k more = []) : Sound ⟨clock, pending, s.requests⟩ (h ++ more) := by
  refine ⟨hknown, eachAfter_append.mpr ⟨hs.justified, eachAfter_of_forall ?_⟩, ?_⟩
  · intro e he pre
    exact hplain e he _
  · intro k r hr
    rw [trail_append, hquiet, List.append_nil]
    exact hs.backed k r hr

theorem Sound.step (hs : Sound s h) (a : Act) : Sound (step adb s a) (h ++ notes adb s a) := by
  have hknown : Known (State.step adb s a).clock (State.step adb s a).pending (h ++ notes adb s a) :=
    hs.known.step a
  cases a with
  | tick d => exact hs.aside hknown (List.forall_mem_nil _) fun _ => rfl
  | create sessionId name password rendered =>
    simp only [State.step, notes] at hknown ⊢
    split_ifs at hknown ⊢
    · refine hs.aside hknown (List.forall_mem_singleton.mpr ?_) fun _ => rfl
      intro pre
      trivial
    · exact hs.aside hknown (List.forall_mem_nil _) fun _ => rfl
  | cancel sessionId =>
    refine hs.aside hknown (List.forall_mem_singleton.mpr ?_) fun _ => rfl
    intro pre
    trivial
  | turn k t =>
    simp only [State.step, notes] at hknown ⊢
    cases hr : s.requests[k]? with
    | none => exact hs.aside (hs.known.quiet fun _ => rfl) (List.forall_mem_nil _) fun _ => rfl
    | some r =>
      simp only [hr] at hknown
      have hm : Moves s k r (s.move adb k r t) := move_moves s k r t
      refine ⟨hknown, eachAfter_append.mpr ⟨hs.justified, hm.justified hs.known (hs.backed k r hr)⟩, ?_⟩
      intro j r' hr'
      rcases getElem?_moved hr' with ⟨rfl, rfl⟩ | ⟨hne, hold⟩
      · exact hm.backed (hs.backed _ r hr)
      · rw [trail_append, hm.elsewhere (Ne.symm hne), List.append_nil]
        exact hs.backed j r' hold

theorem attempts_snoc_le (l : List Note) (e : Note) : attempts (l ++ [e]) ≤ attempts l + 1 := by
  rw [attempts_snoc]
  split <;> omega

/-- Where each `adb pair` is the first of its request, no request has a second. -/
theorem attempts_le (hall : EachAfter Justified h) (k : Nat) : attempts (trail k h) ≤ 1 := by
  induction h using List.reverseRecOn with
  | nil => exact Nat.zero_le 1
  | append_singleton h e ih =>
    obtain ⟨hbefore, he⟩ := eachAfter_snoc.mp hall
    by_cases hown : atCore k e = true
    · rw [trail_own e hown]
      cases e with
      | requested j sessionId => exact (attempts_snoc _ _).trans_le (Nat.zero_le 1)
      | began j sessionId p => exact (attempts_snoc _ _).trans_le (ih hbefore)
      | ran j args output =>
        obtain rfl : j = k := of_decide_eq_true hown
        obtain ⟨sessionId, p, hnone, -⟩ := he
        exact (attempts_snoc_le _ _).trans_eq (congrArg (· + 1) hnone)
      | issued sessionId p => cases hown
      | closed sessionId => cases hown
      | answered j result => cases hown
    · rw [trail_append, show trail k [e] = [] from List.filter_eq_nil_iff.mpr
        (List.forall_mem_singleton.mpr hown), List.append_nil]
      exact ih hbefore

end Commands

end State

end AdbControl.Wireless
