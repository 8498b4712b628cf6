import AdbControl.Server.CorePairing

namespace AdbControl.Server.CoreIpc

open Framework

variable {κ π : Type}

namespace Channel

variable {ends : Ends κ π} {s : Channel κ π}

/-- The step is one of call `k`. -/
def isStepOf (k : Nat) : ChannelAct π → Bool
  | .go j _ => j = k
  | _ => false

/-- Call `k` has returned, or its answer is on the way and is read within `n` of its steps. -/
def Due (s : Channel κ π) (k n : Nat) : Prop :=
  ∃ call, s.calls[k]? = some call ∧
    ((call.pc = .reading ∧ s.served.length = s.sent.length ∧ s.stdout.length < n) ∨
      ∃ answer, call.pc = .returned answer)

theorem goReading_other {j k : Nat} (hjk : k ≠ j) (choice : Choice) (call : Call π) :
    (s.goReading ends k choice call).calls[j]? = s.calls[j]? := by
  unfold goReading
  split
  · exact List.getElem?_set_ne hjk
  · exact List.getElem?_set_ne hjk
  · rfl

/-- A step of a call leaves the others alone. -/
theorem go_other {j k : Nat} (hjk : k ≠ j) (choice : Choice) (call : Call π) :
    (s.go ends k choice call).calls[j]? = s.calls[j]? := by
  unfold go
  split
  · split_ifs
    · exact List.getElem?_set_ne hjk
    · exact List.getElem?_set_ne hjk
    · rfl
  · split_ifs
    · exact List.getElem?_set_ne hjk
    · split
      · exact List.getElem?_set_ne hjk
      · exact List.getElem?_set_ne hjk
  · exact List.getElem?_set_ne hjk
  · exact goReading_other hjk choice call
  · rfl

/-- A call that does not hold the lock leaves the traffic alone. -/
theorem go_traffic {k : Nat} {choice : Choice} {call : Call π} (h : call.pc.holds = false) :
    (s.go ends k choice call).toTraffic = s.toTraffic := by
  unfold go
  cases hpc : call.pc with
  | locking =>
    dsimp only
    split_ifs
    · rfl
    · rfl
    · rfl
  | checking =>
    rw [hpc] at h
    cases h
  | writing line =>
    rw [hpc] at h
    cases h
  | reading =>
    rw [hpc] at h
    cases h
  | returned answer => rfl

/-- The answer that a call reads has come, and is all that is left. -/
theorem answered_of_even (h : s.Paired ends) {k : Nat} {call : Call π}
    (hcall : s.calls[k]? = some call) (hpc : call.pc = .reading)
    (heven : s.served.length = s.sent.length) :
    s.holder = some k ∧ s.scanner.Live maxTokenSize ∧
      ∃ line response, s.toTraffic.Answered line response := by
  obtain ⟨hk, -, hlive, line, -, hphase⟩ := (h.sound k call hcall).at_reading hpc
  rcases hphase with hasked | ⟨response, hanswered⟩
  · have hodd := hasked.even
    omega
  · exact ⟨hk, hlive, line, response, hanswered⟩

/-- A round of the scan returns, or takes at least a byte out of the pipe. -/
theorem due_goReading (h : s.Paired ends) {k n : Nat} {choice : Choice} {call : Call π}
    (hcall : s.calls[k]? = some call) (hpc : call.pc = .reading)
    (heven : s.served.length = s.sent.length) (hn : s.stdout.length < n) :
    (s.goReading ends k choice call).Due k (n - 1) := by
  obtain ⟨-, hlive, line, response, hanswered⟩ := answered_of_even h hcall hpc heven
  obtain ⟨hlt, -⟩ := List.getElem?_eq_some_iff.mp hcall
  unfold goReading
  rcases hanswered.polled hlive with ⟨scanner, hpoll, -⟩ | ⟨room, scanner, hpoll, hpos, hne, -⟩ |
    ⟨scanner, hpoll, -⟩
  · rw [hpoll]
    exact ⟨_, List.getElem?_set_self hlt, Or.inr ⟨_, rfl⟩⟩
  · rw [hpoll]
    refine ⟨call, hcall, Or.inl ⟨hpc, heven, ?_⟩⟩
    have hlen : 0 < s.stdout.length := List.length_pos_of_ne_nil hne
    show (s.stdout.drop (min room (max 1 choice.bytes))).length < n - 1
    rw [List.length_drop]
    omega
  · rw [hpoll]
    exact ⟨_, List.getElem?_set_self hlt, Or.inr ⟨_, rfl⟩⟩

/-- A cancellation leaves a call where it is. -/
theorem due_cancel {k n : Nat} (hdue : s.Due k n) (j : Nat) :
    (step ends s (.cancel j)).Due k n := by
  obtain ⟨call, hcall, hplace⟩ := hdue
  obtain ⟨hlt, -⟩ := List.getElem?_eq_some_iff.mp hcall
  cases hj : s.calls[j]? with
  | none =>
    simp only [step, hj]
    exact ⟨call, hcall, hplace⟩
  | some other =>
    simp only [step, hj]
    by_cases hjk : j = k
    · subst hjk
      rw [hcall] at hj
      cases hj
      exact ⟨_, List.getElem?_set_self hlt, hplace⟩
    · refine ⟨call, ?_, hplace⟩
      rw [← hcall]
      exact List.getElem?_set_ne hjk

/-- The steps of a call whose answer has come bring it nearer to its return. -/
theorem due_go_self (h : s.Paired ends) {k n : Nat} (hdue : s.Due k n) (choice : Choice) :
    (step ends s (.go k choice)).Due k (n - 1) := by
  obtain ⟨call, hcall, hplace⟩ := hdue
  simp only [step, hcall]
  unfold go
  rcases hplace with ⟨hpc, heven, hn⟩ | ⟨answer, hpc⟩
  · rw [hpc]
    exact due_goReading h hcall hpc heven hn
  · rw [hpc]
    exact ⟨call, hcall, Or.inr ⟨answer, hpc⟩⟩

/-- No other call takes anything out of the pipe meanwhile. -/
theorem due_go_other (h : s.Paired ends) {j k n : Nat} (hdue : s.Due k n) (hjk : j ≠ k)
    (choice : Choice) : (step ends s (.go j choice)).Due k n := by
  obtain ⟨call, hcall, hplace⟩ := hdue
  cases hj : s.calls[j]? with
  | none =>
    simp only [step, hj]
    exact ⟨call, hcall, hplace⟩
  | some other =>
    simp only [step, hj]
    refine ⟨call, (go_other hjk choice other).trans hcall, ?_⟩
    rcases hplace with ⟨hpc, heven, hn⟩ | hreturned
    · have hk := (answered_of_even h hcall hpc heven).1
      have hidle : other.pc.holds = false := by
        rw [Bool.eq_false_iff]
        intro hholds
        rw [(h.sound j other hj).holds, hk] at hholds
        exact hjk (Option.some.inj hholds).symm
      rw [go_traffic hidle]
      exact Or.inl ⟨hpc, heven, hn⟩
    · exact Or.inr hreturned

theorem due_step (h : s.Paired ends) {k n : Nat} (hdue : s.Due k n) (act : ChannelAct π) :
    (step ends s act).Due k (if isStepOf k act then n - 1 else n) := by
  cases act with
  | call method params target =>
    obtain ⟨call, hcall, hplace⟩ := hdue
    obtain ⟨hlt, -⟩ := List.getElem?_eq_some_iff.mp hcall
    refine ⟨call, ?_, hplace⟩
    show (s.calls ++ _)[k]? = some call
    rw [List.getElem?_append_left hlt]
    exact hcall
  | cancel j => exact due_cancel hdue j
  | go j choice =>
    by_cases hjk : j = k
    · subst hjk
      rw [show isStepOf j (.go j choice : ChannelAct π) = true from decide_eq_true rfl, if_pos rfl]
      exact due_go_self h hdue choice
    · rw [show isStepOf k (.go j choice : ChannelAct π) = false from decide_eq_false hjk]
      exact due_go_other h hdue hjk choice
  | serve =>
    obtain ⟨call, hcall, hplace⟩ := hdue
    show (s.serveLine ends).Due k n
    unfold serveLine
    rcases hplace with ⟨hpc, heven, hn⟩ | hreturned
    · obtain ⟨-, -, line, response, hanswered⟩ := answered_of_even h hcall hpc heven
      rw [if_neg (by simp [hanswered.stdin])]
      exact ⟨call, hcall, Or.inl ⟨hpc, heven, hn⟩⟩
    · split_ifs
      · exact ⟨call, hcall, Or.inr hreturned⟩
      · exact ⟨call, hcall, Or.inr hreturned⟩

/-- A call whose answer has come returns, after as many of its steps as there are bytes to read. -/
theorem due_run (hone : OneLine ends) (h : s.Paired ends) {k n : Nat} (hdue : s.Due k n)
    {acts : List (ChannelAct π)} (hclear : Along (step ends) WritesClear s acts) :
    (run (step ends) s acts).Due k (n - acts.countP (isStepOf k)) := by
  induction acts generalizing s n with
  | nil => exact hdue
  | cons act acts ih =>
    have later := ih (h.stepped hone hclear.1) (due_step h hdue act) hclear.2
    rw [run_cons, List.countP_cons]
    cases hown : isStepOf k act with
    | true =>
      rw [hown] at later
      simpa [Nat.sub_sub, Nat.add_comm] using later
    | false =>
      rw [hown] at later
      simpa using later

theorem Due.returned {k : Nat} (h : s.Due k 0) :
    ∃ call answer, s.calls[k]? = some call ∧ call.pc = .returned answer := by
  obtain ⟨call, hcall, ⟨-, -, hn⟩ | ⟨answer, hpc⟩⟩ := h
  · omega
  · exact ⟨call, answer, hcall, hpc⟩

/-- Only Core answers lines. -/
theorem served_quiet {act : ChannelAct π} (h : act ≠ .serve) :
    (step ends s act).served = s.served := by
  cases act with
  | call method params target => rfl
  | cancel k =>
    simp only [step]
    split
    · rfl
    · rfl
  | go k choice =>
    simp only [step]
    split
    · rfl
    · unfold go goReading
      split
      · split_ifs
        · rfl
        · rfl
        · rfl
      · split_ifs
        · rfl
        · split
          · rfl
          · rfl
      · rfl
      · split
        · rfl
        · rfl
        · rfl
      · rfl
  | serve => exact (h rfl).elim

/-- What Core has answered stays so. -/
theorem served_step (s : Channel κ π) (act : ChannelAct π) :
    s.served <+: (step ends s act).served := by
  rcases eq_or_ne act .serve with rfl | hact
  · simp only [step, serveLine]
    split_ifs
    · exact List.prefix_append _ _
    · exact List.prefix_rfl
  · rw [served_quiet hact]

theorem served_run (s : Channel κ π) (acts : List (ChannelAct π)) :
    s.served <+: (run (step ends) s acts).served := by
  induction acts generalizing s with
  | nil => exact List.prefix_rfl
  | cons act acts ih => exact (served_step s act).trans (ih _)

/-- Where all of Core's answers fit the scanner, each request is written after answers that do. -/
theorem clear_of_fits {acts : List (ChannelAct π)}
    (h : ∀ e ∈ (run (step ends) s acts).served, e.2.length < maxTokenSize) :
    Along (step ends) WritesClear s acts := by
  apply along_of_at
  intro pre act post hsplit
  cases act with
  | go k choice =>
    intro call line _ _ e he
    apply h e
    rw [hsplit, run_append]
    exact (served_run _ _).subset he
  | _ => trivial

/-- Every call that has written its request and returned was answered by what Core answered to it,
and the others have failed before. -/
def OwnAnswers (ends : Ends κ π) (s : Channel κ π) : Prop :=
  s.sent.Nodup ∧ ∀ (k : Nat) call answer, s.calls[k]? = some call → call.pc = .returned answer →
    s.toTraffic.Unsent k answer ∨ s.toTraffic.Own ends k call answer

theorem Paired.own (h : s.Paired ends) : OwnAnswers ends s := by
  refine ⟨h.nodup, ?_⟩
  intro k call answer hcall hpc
  exact ((h.sound k call hcall).at_returned hpc).2

/-- In a run of any calls that write no request after a response of 16 MiB or more, no response does
harm to any call but its own. -/
theorem responses_apart (ends : Ends κ π) (hone : OneLine ends) (core : κ)
    (acts : List (ChannelAct π)) (hclear : Along (step ends) WritesClear (start core) acts) :
    OwnAnswers ends (run (step ends) (start core) acts) :=
  ((paired_start core).ran hone hclear).own

/-- A call that begins when nobody holds the lock, and that nothing comes between, is past its lock
after one step, and reads after three. -/
theorem call_alone (hholder : s.holder = none) (method : String) (params : π)
    (target : Option (List UInt8 → Bool)) {line : List UInt8}
    (hline : ends.marshal ⟨"web-" ++ toString ((s.sequence + 1) % 2^64), method, params⟩ = some line)
    (choice : Choice) :
    run (step ends) s (.call method params target :: List.replicate 3 (.go s.calls.length choice)) =
      { s with
        stdin := s.stdin ++ (line ++ [newline])
        sent := s.sent ++ [s.calls.length]
        holder := some s.calls.length
        sequence := (s.sequence + 1) % 2^64
        calls := s.calls ++ [⟨⟨"web-" ++ toString ((s.sequence + 1) % 2^64), method, params⟩, target,
          false, .reading⟩] } := by
  have begun : step ends s (.call method params target) = { s with
      sequence := (s.sequence + 1) % 2^64
      calls := s.calls ++ [⟨⟨"web-" ++ toString ((s.sequence + 1) % 2^64), method, params⟩, target,
        false, .locking⟩] } := rfl
  rw [run_cons, begun]
  generalize (s.sequence + 1) % 2^64 = sequence at hline ⊢
  generalize "web-" ++ toString sequence = id at hline ⊢
  simp [List.replicate, step, go, hholder, setCall, hline]

theorem Paired.noneReads (h : s.Paired ends) (hholder : s.holder = none) : NoneReads s.calls := by
  intro k call hcall hpc
  have hk := ((h.sound k call hcall).at_reading hpc).1
  rw [hholder] at hk
  cases hk

/-- After a response that was too long the next call to write takes a piece of it for its own
answer, before Core has answered. -/
theorem next_not_own (h : s.Paired ends) (hholder : s.holder = none)
    {e : List UInt8 × List UInt8} (he : e ∈ s.served) (hlong : maxTokenSize ≤ e.2.length)
    (method : String) (params : π) (target : Option (List UInt8 → Bool)) {line : List UInt8}
    (hline : ends.marshal ⟨"web-" ++ toString ((s.sequence + 1) % 2^64), method, params⟩ = some line)
    (choice : Choice) :
    ¬OwnAnswers ends (run (step ends) s
      (.call method params target :: List.replicate 4 (.go s.calls.length choice))) := by
  have still := h.still (h.noneReads hholder)
  obtain ⟨hdead, hheld, hno⟩ := still.spoilt e he hlong
  rw [List.replicate_succ', ← List.cons_append, run_append,
    call_alone hholder method params target hline choice, run_cons, run_nil]
  generalize hs : s.calls.length = k
  generalize "web-" ++ toString ((s.sequence + 1) % 2^64) = id
  have hcall : (s.calls ++ [(⟨⟨id, method, params⟩, target, false, .reading⟩ : Call π)])[k]? =
      some ⟨⟨id, method, params⟩, target, false, .reading⟩ := by
    rw [← hs, List.getElem?_concat_length]
  simp only [step, hcall, go, goReading, Scanner.poll_fragment hdead hheld hno]
  intro hown
  have hlt : k < (s.calls ++ [(⟨⟨id, method, params⟩, target, false, .reading⟩ : Call π)]).length := by
    rw [List.length_append, List.length_singleton]
    omega
  rcases hown.2 k _ _ (List.getElem?_set_self hlt) rfl with hun | ⟨i, line', response, hi, hr, -⟩
  · apply hun.1
    show k ∈ s.sent ++ [k]
    simp
  · have hi' : (s.sent ++ [k])[i]? = some k := hi
    have hr' : s.served[i]? = some (line', response) := hr
    obtain ⟨hserved, -⟩ := List.getElem?_eq_some_iff.mp hr'
    rw [still.even] at hserved
    rw [List.getElem?_append_left hserved] at hi'
    have hknown := h.known k (Or.inr (List.mem_of_getElem? hi'))
    omega

/-- A call whose answer has come goes on alone. -/
theorem due_alone (hone : OneLine ends) (h : s.Paired ends) {k n : Nat} (hdue : s.Due k n)
    (m : Nat) (choice : Choice) :
    (run (step ends) s (List.replicate m (.go k choice))).Paired ends ∧
      (run (step ends) s (List.replicate m (.go k choice))).Due k (n - m) := by
  induction m generalizing s n with
  | zero => exact ⟨h, hdue⟩
  | succ m ih =>
    have hclear : s.WritesClear (.go k choice) := by
      intro call line hcall hpc
      obtain ⟨other, hother, ⟨hreading, -⟩ | ⟨answer, hreturned⟩⟩ := hdue
      · rw [hcall] at hother
        cases hother
        rw [hpc] at hreading
        cases hreading
      · rw [hcall] at hother
        cases hother
        rw [hpc] at hreturned
        cases hreturned
    have later := due_step h hdue (.go k choice)
    rw [show isStepOf k (.go k choice : ChannelAct π) = true from decide_eq_true rfl, if_pos rfl]
      at later
    rw [List.replicate_succ, run_cons, show n - (m + 1) = n - 1 - m by omega]
    exact ih (h.stepped hone hclear) later

/-- The first call of all has its answer on the way, once Core has read its request. -/
theorem first_answer (hone : OneLine ends) (core : κ) (method : String) (params : π)
    {line : List UInt8}
    (hline : ends.marshal ⟨"web-" ++ toString ((0 + 1) % 2^64), method, params⟩ = some line)
    (choice : Choice) {s : Channel κ π}
    (hs : s = run (step ends) (start core)
      ((.call method params none :: List.replicate 3 (.go 0 choice)) ++ [.serve])) :
    s.Paired ends ∧ s.calls.length = 1 ∧
      s.served = [(line, (ends.serve core (Scanner.dropCr carriage line)).2)] ∧
      s.Due 0 ((ends.serve core (Scanner.dropCr carriage line)).2.length + 2) := by
  have written := @call_alone _ _ ends (start core) rfl method params none line hline choice
  have clear : Along (step ends) WritesClear (start core)
      (.call method params none :: List.replicate 3 (.go 0 choice)) := by
    apply clear_of_fits
    intro e he
    rw [show (0 : Nat) = (start core : Channel κ π).calls.length from rfl, written] at he
    exact absurd he List.not_mem_nil
  have h := ((paired_start core).ran hone clear).lineServed hone
  rw [run_append, run_cons, run_nil] at hs
  rw [show (0 : Nat) = (start core : Channel κ π).calls.length from rfl, written] at h hs
  have hasked : Traffic.Asked ⟨[] ++ (line ++ [newline]), [], .new initialBufferSize, [] ++ [0], []⟩
      line := ⟨rfl, nofun, rfl, rfl, rfl⟩
  have hno := hone.marshal _ _ hline
  rw [serveLine_asked hasked hno] at h
  have hserved : s = _ := hs.trans (serveLine_asked hasked hno)
  subst hserved
  refine ⟨h, rfl, rfl, _, rfl, Or.inl ⟨rfl, rfl, ?_⟩⟩
  show (_ ++ [newline]).length < _
  rw [List.length_append, List.length_singleton]
  exact Nat.lt_succ_self _

theorem go_length {k : Nat} {choice : Choice} {call : Call π} :
    (s.go ends k choice call).calls.length = s.calls.length := by
  unfold go goReading
  split
  · split_ifs
    · exact List.length_set
    · exact List.length_set
    · rfl
  · split_ifs
    · exact List.length_set
    · split
      · exact List.length_set
      · exact List.length_set
  · exact List.length_set
  · split
    · exact List.length_set
    · exact List.length_set
    · rfl
  · rfl

theorem gos_length (m k : Nat) (choice : Choice) :
    (run (step ends) s (List.replicate m (.go k choice))).calls.length = s.calls.length := by
  induction m generalizing s with
  | zero => rfl
  | succ m ih =>
    rw [List.replicate_succ, run_cons, ih]
    simp only [step]
    split
    · rfl
    · exact go_length

/-- A first call, its answer, and a second call as soon as the first has returned. -/
def twoCalls (method : String) (params : π) (n : Nat) (choice : Choice) : List (ChannelAct π) :=
  let call : ChannelAct π := .call method params none
  let go (k : Nat) : ChannelAct π := .go k choice
  ((call :: List.replicate 3 (go 0)) ++ [.serve]) ++
    (List.replicate n (go 0) ++ (call :: List.replicate 4 (go 1)))

/-- Whatever the ends are, a first response that is too long spoils the second call. -/
theorem second_not_own (hone : OneLine ends) (core : κ) (method : String) (params : π)
    (hmarshal : ∀ id, (ends.marshal ⟨id, method, params⟩).isSome = true)
    (hlong : ∀ line, (ends.serve core line).2.length = maxTokenSize) (choice : Choice) :
    ¬OwnAnswers ends (run (step ends) (start core)
      (twoCalls method params (maxTokenSize + 2) choice)) := by
  obtain ⟨line, hline⟩ := Option.isSome_iff_exists.mp (hmarshal _)
  obtain ⟨h, hlen, hserved, hdue⟩ := first_answer hone core method params hline choice rfl
  unfold twoCalls
  dsimp only
  rw [run_append, run_append]
  generalize run (step ends) (start core) _ = s at h hlen hserved hdue ⊢
  rw [hlong] at hdue
  obtain ⟨h', hdue'⟩ := due_alone hone h hdue (maxTokenSize + 2) choice
  have hlen' := (@gos_length _ _ ends s (maxTokenSize + 2) 0 choice).trans hlen
  have hkept := @served_run _ _ ends s (List.replicate (maxTokenSize + 2) (.go 0 choice))
  generalize run (step ends) s (List.replicate (maxTokenSize + 2) (.go 0 choice)) = s'
    at h' hdue' hlen' hkept ⊢
  rw [Nat.sub_self] at hdue'
  obtain ⟨call, answer, hcall, hpc⟩ := hdue'.returned
  have hholder : s'.holder = none := by
    rw [Option.eq_none_iff_forall_ne_some]
    intro k hk
    have hzero : k = 0 := by
      have hlt := h'.known k (Or.inl hk)
      omega
    subst hzero
    exact ((h'.sound 0 call hcall).at_returned hpc).1 hk
  obtain ⟨line', hline'⟩ := Option.isSome_iff_exists.mp (hmarshal _)
  have hmem : (line, (ends.serve core (Scanner.dropCr carriage line)).2) ∈ s'.served := by
    apply hkept.subset
    rw [hserved]
    simp
  have spoilt := next_not_own h' hholder hmem (hlong _).ge method params none hline' choice
  rw [hlen'] at spoilt
  exact spoilt

/-- The bytes of a text. -/
def utf8 (text : String) : List UInt8 := text.toList.flatMap String.utf8EncodeChar

/-- Ends whose Core gives the responses that it is told to, as long as they are lines. -/
def toldEnds (unmarshal : List UInt8 → Option Response) : Ends (List (List UInt8)) Unit where
  marshal := fun request => some ((utf8 ("\x7b\"id\":\"" ++ request.id ++ "\",\"method\":\"" ++
    request.method ++ "\",\"params\":null\x7d")).filter (· ≠ newline))
  unmarshal := unmarshal
  serve := fun core _ => (core.tail, (core.headD []).filter (· ≠ newline))

theorem toldEnds_oneLine (unmarshal : List UInt8 → Option Response) :
    OneLine (toldEnds unmarshal) := by
  constructor
  · intro request line hline
    obtain rfl := Option.some.inj hline
    simp
  · intro core line
    simp [toldEnds]

/-- Some steps of one call, each of which may read a whole answer. -/
def goes (k n : Nat) : List (ChannelAct Unit) := List.replicate n (.go k ⟨true, 64⟩)

/-- A call that nothing comes between. -/
def wholeCall (k : Nat) : List (ChannelAct Unit) :=
  .call "device.list" () none :: (goes k 3 ++ .serve :: goes k 2)

/-- An empty list, as Core answers it to the second call. -/
def emptyList : List UInt8 := utf8 "\x7b\"id\":\"web-2\",\"ok\":true,\"result\":[]\x7d"

def readEmptyList (line : List UInt8) : Option Response :=
  if line = emptyList then some ⟨"web-2", true, utf8 "[]", none⟩ else none

/-- The answer to the first call is not JSON; the second has its own. -/
theorem responses_apart_json :
    let s := run (step (toldEnds readEmptyList)) (start [utf8 "panic", emptyList])
      (wholeCall 0 ++ wholeCall 1)
    OwnAnswers (toldEnds readEmptyList) s ∧
      s.calls.map (·.pc) = [.returned (.unavailable .json), .returned .done] := by
  constructor
  · exact responses_apart (toldEnds readEmptyList) (toldEnds_oneLine _) [utf8 "panic", emptyList]
      (wholeCall 0 ++ wholeCall 1) (clear_of_fits (by decide))
  · decide

/-- A response of 16 MiB, all blanks. -/
def longResponse : List UInt8 := List.replicate maxTokenSize 32

/-- Core answers the first request with it, and the second call gets what is held of it. -/
theorem long_response_spoils : ¬∀ (κ π : Type) (ends : Ends κ π), OneLine ends →
    ∀ (core : κ) (acts : List (ChannelAct π)),
      OwnAnswers ends (run (step ends) (start core) acts) := by
  intro hall
  have hlong : (longResponse.filter (· ≠ newline)).length = maxTokenSize := by
    rw [longResponse, List.filter_replicate, if_pos (by decide), List.length_replicate]
  exact second_not_own (toldEnds_oneLine fun _ => none) [longResponse] "device.list" ()
    (fun _ => rfl) (fun _ => hlong) ⟨true, 1⟩ (hall _ _ _ (toldEnds_oneLine _) _ _)

end Channel

end AdbControl.Server.CoreIpc
