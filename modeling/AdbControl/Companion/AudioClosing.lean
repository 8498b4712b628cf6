import AdbControl.Companion.AudioRecording

namespace AdbControl.Companion

open Framework

namespace AudioRecordSession

/-- `stop` has not closed the sink. -/
def SinkOpen (s : AudioRecordSession) : Prop := .onStreamStopped ∉ s.stopper.made

/-- Only one of the two threads closes the recording. The worker does so where no stop is taken, and
none of its calls before the last one throws; `stop` does so where it finds the worker in its loop, and
the worker throws there before it looks at the flag again or calls a closed sink. -/
def Orderly (s : AudioRecordSession) : AudioAct → Prop
  | .start recorderOk sinkOk => s.worker = .unstarted → recorderOk = true ∧ sinkOk = true
  | .openOutput _ ok => s.worker = .opening → ok = true ∨ s.stopper ≠ .idle
  | .check _ => s.worker = .looping → s.stopper = .idle
  | .deliver written sunk => ∀ chunk, s.worker = .delivering chunk →
      (written = true ∧ sunk = true ∨ s.stopper ≠ .idle) ∧ (written = true → s.SinkOpen)
  | .workerCloses ok => ∀ call, s.worker = .closing call → ok = true ∨ call = .release
  | .stop => s.worker ≠ .unstarted → s.stopper = .idle → s.worker.inLoop = true
  | _ => True

section Runs

variable {s : AudioRecordSession}

/-- The chunk that is read and not delivered -/
def pending : AudioWorker → List (List UInt8)
  | .delivering chunk => [chunk]
  | _ => []

/-- Where the threads stand together in an orderly run -/
def Phase : AudioWorker → AudioStopper → Prop
  | .unstarted, stopper | .closing _, stopper | .ended, stopper | .threw (some .release), stopper =>
    stopper = .idle
  | .none, _ | .threw (some _), _ => False
  | .threw none, stopper => stopper ≠ .idle
  | _, _ => True

/-- The sink was given the chunks as they were recorded, and in the loop all of them but the one that is
still to be delivered. -/
def Streaming (s : AudioRecordSession) (worker : AudioWorker) : Prop :=
  ∃ chunks stopped, s.sink = s.streamed chunks stopped ∧ chunks <+: s.recorded ∧
    (worker.inLoop = true → chunks ++ pending worker = s.recorded)

/-- What holds all along an orderly run -/
structure Steady (s : AudioRecordSession) : Prop where
  counted : s.Counted
  flag : s.stopper ≠ .idle → s.active = false
  phase : Phase s.worker s.stopper
  sink : s.worker = .unstarted ∧ s.sink = [] ∧ s.recorded = [] ∨
    s.worker ≠ .unstarted ∧ s.Streaming s.worker

theorem count_streamed (s : AudioRecordSession) (chunks : List (List UInt8)) (stopped : Bool) :
    (s.streamed chunks stopped).count .onStreamStopped = stopped.toNat := by
  have none : (chunks.map fun chunk => SinkCall.onChunk chunk s.sampleRate).count .onStreamStopped = 0 := by
    rw [List.count_eq_zero]
    intro hmem
    obtain ⟨chunk, -, hchunk⟩ := List.mem_map.mp hmem
    cases hchunk
  rw [streamed, List.count_append, List.count_cons, none]
  cases stopped <;> rfl

theorem count_made_le (call : Closing) (worker : AudioWorker) (stopper : AudioStopper) :
    worker.made.count call ≤ 1 ∧ stopper.made.count call ≤ 1 := by
  constructor
  · cases worker with
    | closing place => cases place <;> cases call <;> decide
    | threw place => rcases place with _ | place <;> cases call <;> (try cases place) <;> decide
    | ended => cases call <;> decide
    | _ => exact Nat.zero_le 1
  · cases stopper with
    | closing place => cases place <;> cases call <;> decide
    | done => cases call <;> decide
    | _ => exact Nat.zero_le 1

/-- Only one of the two threads has closed anything. -/
theorem Phase.made {worker : AudioWorker} {stopper : AudioStopper} (h : Phase worker stopper) :
    worker.made = [] ∨ stopper.made = [] := by
  cases worker with
  | closing call =>
    obtain rfl : stopper = .idle := h
    exact Or.inr rfl
  | ended =>
    obtain rfl : stopper = .idle := h
    exact Or.inr rfl
  | threw call =>
    rcases call with _ | call
    · exact Or.inl rfl
    · cases call with
      | release =>
        obtain rfl : stopper = .idle := h
        exact Or.inr rfl
      | _ => exact h.elim
  | _ => exact Or.inl rfl

/-- Where a stop was taken, the worker has closed nothing, and never will. -/
theorem Phase.stopped {worker : AudioWorker} {stopper : AudioStopper} (h : Phase worker stopper)
    (hstopper : stopper ≠ .idle) :
    worker.made = [] ∧ ∀ stopper' : AudioStopper, stopper' ≠ .idle → Phase worker stopper' := by
  cases worker with
  | unstarted => exact (hstopper h).elim
  | none => exact h.elim
  | closing call => exact (hstopper h).elim
  | ended => exact (hstopper h).elim
  | threw call =>
    rcases call with _ | call
    · exact ⟨rfl, fun _ hne => hne⟩
    · cases call with
      | release => exact (hstopper h).elim
      | _ => exact h.elim
  | _ => exact ⟨rfl, fun _ _ => trivial⟩

/-- Where no stop was taken, a worker that has started is in its loop or has left it. -/
theorem Phase.left {worker : AudioWorker} (h : Phase worker .idle) (hstarted : worker ≠ .unstarted)
    (hloop : worker.inLoop = false) : worker.left = true := by
  cases worker with
  | unstarted => exact (hstarted rfl).elim
  | none => exact h.elim
  | closing call => rfl
  | ended => rfl
  | threw call =>
    rcases call with _ | call
    · exact (h rfl).elim
    · rfl
  | _ => cases hloop

/-- When both threads are done, one of them has made all closing calls. -/
theorem Phase.over {worker : AudioWorker} {stopper : AudioStopper} (h : Phase worker stopper)
    (hstarted : worker ≠ .unstarted) (hrunning : worker.running = false)
    (hstopper : stopper = .idle ∨ stopper = .done) (call : Closing) :
    worker.made.count call + stopper.made.count call = 1 := by
  cases worker with
  | unstarted => exact (hstarted rfl).elim
  | none => exact h.elim
  | ended =>
    obtain rfl : stopper = .idle := h
    cases call <;> decide
  | threw place =>
    rcases place with _ | place
    · obtain rfl : stopper = .done := hstopper.resolve_left h
      cases call <;> decide
    · cases place with
      | release =>
        obtain rfl : stopper = .idle := h
        cases call <;> decide
      | _ => exact h.elim
  | _ => cases hrunning

theorem Steady.sound (h : s.Steady) : s.Sound := by
  refine ⟨?_, ?_, ?_⟩
  · rcases h.sink with ⟨-, hsink, -⟩ | ⟨-, chunks, stopped, hsink, hchunks, -⟩
    · exact Or.inl hsink
    · exact Or.inr ⟨chunks, stopped, hchunks, hsink⟩
  · have le (call : Closing) : s.calls call ≤ 1 := by
      obtain ⟨hworker, hstopper⟩ := count_made_le call s.worker s.stopper
      rw [h.counted call]
      rcases h.phase.made with hmade | hmade <;> rw [hmade, List.count_nil] <;> omega
    exact ⟨le .stop, le .release⟩
  · rintro ⟨hstarted, hrunning, hstopper⟩
    have one (call : Closing) : s.calls call = 1 :=
      (h.counted call).trans (h.phase.over hstarted hrunning hstopper call)
    exact ⟨one .onStreamStopped, one .stop, one .release⟩

/-- `QuicMediaStreamSink` has sent one open message, the chunks, and one close message. -/
theorem Sound.kinds (h : s.Sound) (hover : s.Over) : ∃ n, s.sink.map SinkCall.kind =
    .streamOpen :: List.replicate n .streamChunk ++ [.streamClose] := by
  have hone := (h.closed_over hover).1
  rcases h.ordered with hempty | ⟨chunks, stopped, -, hsink⟩
  · rw [hempty] at hone
    cases hone
  · rw [hsink, count_streamed] at hone
    obtain rfl : stopped = true := Bool.toNat_eq_one.mp hone
    refine ⟨chunks.length, ?_⟩
    have hkinds : (chunks.map fun chunk => SinkCall.onChunk chunk s.sampleRate).map SinkCall.kind =
        List.replicate chunks.length .streamChunk := by
      rw [List.map_map]
      exact List.map_const
    rw [hsink, streamed, List.map_append, List.map_cons, hkinds]
    rfl

/-- A stream that nobody has closed: its end, or its next chunk. -/
theorem streamed_open {chunks : List (List UInt8)} {stopped : Bool}
    (hsink : s.sink = s.streamed chunks stopped) (hopen : s.calls .onStreamStopped = 0) :
    s.sink ++ [.onStreamStopped] = s.streamed chunks true ∧ ∀ chunk,
      s.sink ++ [.onChunk chunk s.sampleRate] = s.streamed (chunks ++ [chunk]) false := by
  have hcount : (s.streamed chunks stopped).count .onStreamStopped = 0 := hsink ▸ hopen
  rw [count_streamed] at hcount
  obtain rfl : stopped = false := Bool.toNat_eq_zero.mp hcount
  rw [hsink]
  refine ⟨?_, fun chunk => ?_⟩
  · simp [streamed]
  · simp [streamed]

theorem Streaming.move {worker worker' : AudioWorker} (h : s.Streaming worker)
    (hloop : worker'.inLoop = true → worker.inLoop = true ∧ pending worker' = pending worker) :
    s.Streaming worker' := by
  obtain ⟨chunks, stopped, hsink, hchunks, hall⟩ := h
  refine ⟨chunks, stopped, hsink, hchunks, fun hworker => ?_⟩
  obtain ⟨hin, hpending⟩ := hloop hworker
  rw [hpending]
  exact hall hin

theorem Streaming.leave {worker worker' : AudioWorker} (h : s.Streaming worker)
    (hloop : worker'.inLoop = false) : s.Streaming worker' :=
  h.move fun hin => absurd (hloop.symm.trans hin) Bool.false_ne_true

theorem Streaming.call {worker : AudioWorker} (h : s.Streaming worker) {call : Closing}
    (hopen : call = .onStreamStopped → s.calls call = 0) : (s.call call).Streaming worker := by
  obtain ⟨chunks, stopped, hsink, hchunks, hall⟩ := h
  cases call with
  | onStreamStopped => exact ⟨chunks, true, (streamed_open hsink (hopen rfl)).1, hchunks, hall⟩
  | stop => exact ⟨chunks, stopped, hsink, hchunks, hall⟩
  | release => exact ⟨chunks, stopped, hsink, hchunks, hall⟩

theorem Steady.streaming (h : s.Steady) {worker : AudioWorker} (hworker : s.worker = worker)
    (hne : worker ≠ .unstarted) : s.Streaming worker := by
  subst hworker
  exact (h.sink.resolve_left fun hstart => hne hstart.1).2

theorem Steady.deliver (h : s.Steady) {chunk : List UInt8} (hworker : s.worker = .delivering chunk)
    {written sunk : Bool} (hthrows : written = true ∧ sunk = true ∨ s.stopper ≠ .idle)
    (hopen : written = true → s.SinkOpen) (hcounted : (s.deliver chunk written sunk).Counted) :
    (s.deliver chunk written sunk).Steady := by
  have hstream := h.streaming hworker (by rintro ⟨⟩)
  cases written with
  | false =>
    have hstopped : s.stopper ≠ .idle := hthrows.resolve_left (by simp)
    exact ⟨hcounted, h.flag, hstopped, Or.inr ⟨by rintro ⟨⟩, hstream.leave rfl⟩⟩
  | true =>
    obtain ⟨chunks, stopped, hsink, -, hall⟩ := hstream
    have hclosed : s.calls .onStreamStopped = 0 := by
      rw [h.counted, hworker, List.count_eq_zero.mpr (hopen rfl)]
      rfl
    have hnext := (streamed_open hsink hclosed).2 chunk
    have hrecorded : chunks ++ [chunk] = s.recorded := hall rfl
    have hprefix : chunks ++ [chunk] <+: s.recorded := hrecorded ▸ List.prefix_rfl
    cases sunk with
    | true =>
      exact ⟨hcounted, h.flag, trivial, Or.inr ⟨by rintro ⟨⟩, _, _, hnext, hprefix,
        fun _ => (List.append_nil _).trans hrecorded⟩⟩
    | false =>
      have hstopped : s.stopper ≠ .idle := hthrows.resolve_left (by simp)
      exact ⟨hcounted, h.flag, hstopped, Or.inr ⟨by rintro ⟨⟩, _, _, hnext, hprefix, by rintro ⟨⟩⟩⟩

theorem Steady.workerCloses (h : s.Steady) {call : Closing} (hworker : s.worker = .closing call)
    {ok : Bool} (hlast : ok = true ∨ call = .release) (hcounted : (s.workerCloses call ok).Counted) :
    (s.workerCloses call ok).Steady := by
  have hidle : s.stopper = .idle := by
    have hphase := h.phase
    rwa [hworker] at hphase
  have hopen : call = .onStreamStopped → s.calls call = 0 := by
    rintro rfl
    rw [h.counted, hworker, hidle]
    rfl
  have hstopper : (s.call call).stopper = .idle := (stopper_call s call).trans hidle
  have hflag : (s.workerCloses call ok).stopper ≠ .idle → (s.workerCloses call ok).active = false :=
    fun hne => absurd hstopper hne
  have hmoved (worker : AudioWorker) (hloop : worker.inLoop = false) : (s.call call).Streaming worker :=
    ((h.streaming hworker (by rintro ⟨⟩)).call hopen).leave hloop
  cases ok with
  | true =>
    refine ⟨hcounted, hflag, ?_, Or.inr ⟨?_, hmoved (.closed call) (by cases call <;> rfl)⟩⟩
    · cases call <;> exact hstopper
    · cases call <;> rintro ⟨⟩
  | false =>
    obtain rfl : call = .release := hlast.resolve_left (by rintro ⟨⟩)
    exact ⟨hcounted, hflag, hstopper, Or.inr ⟨by rintro ⟨⟩, hmoved _ rfl⟩⟩

theorem Steady.stopperCloses (h : s.Steady) {call : Closing} (hstopper : s.stopper = .closing call)
    (hcounted : (s.stopperCloses call).Counted) : (s.stopperCloses call).Steady := by
  have hne : s.stopper ≠ .idle := by
    rw [hstopper]
    rintro ⟨⟩
  obtain ⟨hmade, hphase⟩ := h.phase.stopped hne
  have hstarted : s.worker ≠ .unstarted := by
    intro hworker
    have hidle := h.phase
    rw [hworker] at hidle
    exact hne hidle
  have hopen : call = .onStreamStopped → s.calls call = 0 := by
    rintro rfl
    rw [h.counted, hmade, hstopper]
    rfl
  have hworker : (s.stopperCloses call).worker = s.worker := worker_call s call
  refine ⟨hcounted, fun _ => ?_, ?_, Or.inr ⟨hworker ▸ hstarted, ?_⟩⟩
  · cases call <;> exact h.flag hne
  · rw [hworker]
    refine hphase _ ?_
    cases call <;> rintro ⟨⟩
  · rw [hworker]
    exact (h.streaming rfl hstarted).call hopen

theorem Steady.step (h : s.Steady) (a : AudioAct) (ha : s.Orderly a) : (s.step a).Steady := by
  have hcounted := h.counted.step a
  have hmoves := s.step_moves a
  generalize s.step a = t at hmoves hcounted ⊢
  have hphase := h.phase
  cases hmoves with
  | stays => exact h
  | start hworker recorderOk sinkOk =>
    obtain ⟨rfl, rfl⟩ : recorderOk = true ∧ sinkOk = true := ha hworker
    obtain ⟨-, hsink, hrecorded⟩ := h.sink.resolve_right fun hstarted => hstarted.1 hworker
    have hidle : s.stopper = .idle := by rwa [hworker] at hphase
    refine ⟨hcounted, fun hne => absurd hidle hne, trivial, Or.inr ⟨by rintro ⟨⟩, [], false, ?_,
      List.nil_prefix, fun _ => hrecorded.symm⟩⟩
    simp [start, hsink, streamed]
  | openOutput hworker now ok =>
    have hstream := h.streaming hworker (by rintro ⟨⟩)
    cases ok with
    | true => exact ⟨hcounted, h.flag, trivial, Or.inr ⟨by rintro ⟨⟩, hstream.move fun _ => ⟨rfl, rfl⟩⟩⟩
    | false =>
      have hstopped : s.stopper ≠ .idle := (ha hworker).resolve_left (by rintro ⟨⟩)
      exact ⟨hcounted, h.flag, hstopped, Or.inr ⟨by rintro ⟨⟩, hstream.leave rfl⟩⟩
  | check hworker now =>
    have hstream := h.streaming hworker (by rintro ⟨⟩)
    have hidle : s.stopper = .idle := ha hworker
    unfold check at hcounted ⊢
    split_ifs at hcounted ⊢
    · exact ⟨hcounted, h.flag, trivial, Or.inr ⟨by rintro ⟨⟩, hstream.move fun _ => ⟨rfl, rfl⟩⟩⟩
    · exact ⟨hcounted, fun _ => rfl, hidle, Or.inr ⟨by rintro ⟨⟩, hstream.leave rfl⟩⟩
  | read hworker data =>
    have hstream := h.streaming hworker (by rintro ⟨⟩)
    unfold read at hcounted ⊢
    split_ifs at hcounted ⊢
    · exact ⟨hcounted, h.flag, trivial, Or.inr ⟨by rintro ⟨⟩, hstream.move fun _ => ⟨rfl, rfl⟩⟩⟩
    · obtain ⟨chunks, stopped, hsink, -, hall⟩ := hstream
      have hrecorded : chunks = s.recorded := (List.append_nil chunks).symm.trans (hall rfl)
      subst hrecorded
      exact ⟨hcounted, h.flag, trivial, Or.inr ⟨by rintro ⟨⟩, _, stopped, hsink, List.prefix_append _ _,
        fun _ => rfl⟩⟩
  | @deliver chunk hworker written sunk =>
    obtain ⟨hthrows, hopen⟩ := ha chunk hworker
    exact h.deliver hworker hthrows hopen hcounted
  | @workerCloses call hworker ok => exact h.workerCloses hworker (ha call hworker) hcounted
  | stop hworker hstopper =>
    have hloop : s.worker.inLoop = true := ha hworker hstopper
    refine ⟨hcounted, fun _ => rfl, ?_, Or.inr ⟨hworker, h.streaming rfl hworker⟩⟩
    change Phase s.worker .joining
    cases hw : s.worker with
    | opening | looping | reading | delivering _ => trivial
    | _ =>
      rw [hw] at hloop
      cases hloop
  | join hstopper timedOut =>
    have hne : s.stopper ≠ .idle := by
      rw [hstopper]
      rintro ⟨⟩
    unfold join at hcounted ⊢
    split_ifs at hcounted ⊢
    · exact h
    · exact ⟨hcounted, fun _ => h.flag hne, (hphase.stopped hne).2 _ (by rintro ⟨⟩), h.sink⟩
  | stopperCloses hstopper => exact h.stopperCloses hstopper hcounted

end Runs

section Exactness

variable {s t : AudioRecordSession}

/-- A chunk stands behind the end of the stream. -/
def Broken (s : AudioRecordSession) : Prop :=
  ∃ chunk sampleRate, [SinkCall.onStreamStopped, .onChunk chunk sampleRate].Sublist s.sink

/-- The worker closes the recording, and a stop was taken. -/
def Twice (s : AudioRecordSession) : Prop := s.worker.left = true ∧ s.stopper ≠ .idle

theorem sink_prefix (s : AudioRecordSession) (a : AudioAct) : s.sink <+: (s.step a).sink := by
  have hmoves := s.step_moves a
  generalize s.step a = t at hmoves ⊢
  cases hmoves with
  | start => exact List.prefix_append _ _
  | deliver _ written sunk =>
    cases written with
    | true => exact List.prefix_append _ _
    | false => exact List.prefix_rfl
  | @workerCloses call _ ok => cases call <;> first | exact List.prefix_append _ _ | exact List.prefix_rfl
  | @stopperCloses call _ => cases call <;> first | exact List.prefix_append _ _ | exact List.prefix_rfl
  | check _ now =>
    unfold check
    split_ifs <;> exact List.prefix_rfl
  | read _ data =>
    unfold read
    split_ifs <;> exact List.prefix_rfl
  | join _ timedOut =>
    unfold join
    split_ifs <;> exact List.prefix_rfl
  | _ => exact List.prefix_rfl

theorem Broken.step (h : s.Broken) (a : AudioAct) : (s.step a).Broken := by
  obtain ⟨chunk, sampleRate, hsub⟩ := h
  exact ⟨chunk, sampleRate, hsub.trans (s.sink_prefix a).sublist⟩

theorem Twice.step (h : s.Twice) (a : AudioAct) : (s.step a).Twice := by
  obtain ⟨hleft, hstopper⟩ := h
  have hmoves := s.step_moves a
  generalize s.step a = t at hmoves ⊢
  cases hmoves with
  | stays => exact ⟨hleft, hstopper⟩
  | start hworker | openOutput hworker | check hworker | read hworker | deliver hworker =>
    rw [hworker] at hleft
    cases hleft
  | @workerCloses call hworker ok =>
    have hsame : (s.workerCloses call ok).stopper = s.stopper := stopper_call s call
    refine ⟨?_, hsame ▸ hstopper⟩
    cases ok with
    | true => cases call <;> rfl
    | false => rfl
  | stop _ hidle => exact (hstopper hidle).elim
  | join _ timedOut =>
    unfold join
    split_ifs
    · exact ⟨hleft, hstopper⟩
    · exact ⟨hleft, by rintro ⟨⟩⟩
  | @stopperCloses call _ =>
    have hsame : (s.stopperCloses call).worker = s.worker := worker_call s call
    refine ⟨hsame ▸ hleft, ?_⟩
    cases call <;> rintro ⟨⟩

theorem Broken.not_sound (h : s.Broken) : ¬s.Sound := by
  obtain ⟨chunk, sampleRate, hsub⟩ := h
  intro hsound
  rcases hsound.ordered with hempty | ⟨chunks, stopped, -, hsink⟩
  · rw [hempty] at hsub
    cases hsub
  · have last : (s.streamed chunks stopped).Pairwise fun call _ => call ≠ .onStreamStopped := by
      cases stopped <;>
        simp [streamed, List.pairwise_append, List.pairwise_map, List.pairwise_of_forall]
    rw [hsink] at hsub
    have hfront := (List.pairwise_cons.mp (last.sublist hsub)).1
    exact hfront _ (List.mem_singleton_self _) rfl

theorem Twice.not_sound (h : s.Twice) (hcounted : s.Counted) (hover : s.Over) : ¬s.Sound := by
  obtain ⟨hleft, hstopper⟩ := h
  intro hsound
  have hone : s.calls .onStreamStopped = 1 := (hsound.closed_over hover).1
  have hrunning := hover.2.1
  rw [hcounted, hover.2.2.resolve_left hstopper] at hone
  have htwo : s.worker.made.count .onStreamStopped = 1 := by
    cases hworker : s.worker with
    | ended => rfl
    | threw call =>
      rw [hworker] at hleft
      rcases call with _ | call
      · cases hleft
      · cases call <;> rfl
    | closing call =>
      rw [hworker] at hrunning
      cases hrunning
    | _ =>
      rw [hworker] at hleft
      cases hleft
  rw [htwo] at hone
  cases hone

theorem not_sound_of_over (hover : t.Over) (call : Closing) (hcalls : t.calls call = 0) : ¬t.Sound := by
  intro hsound
  obtain ⟨hsink, hstop, hrelease⟩ := hsound.closed_over hover
  cases call with
  | onStreamStopped => exact absurd (hcalls.symm.trans hsink) Nat.zero_ne_one
  | stop => exact absurd (hcalls.symm.trans hstop) Nat.zero_ne_one
  | release => exact absurd (hcalls.symm.trans hrelease) Nat.zero_ne_one

theorem calls_fresh (h : s.Steady) {worker : AudioWorker} (hworker : s.worker = worker)
    (hmade : worker.made = []) (hidle : s.stopper = .idle) (call : Closing) : s.calls call = 0 := by
  rw [h.counted, hworker, hmade, hidle]
  rfl

/-- A chunk goes to a closed sink, or the worker throws where nobody closes the recording. -/
theorem deliver_not_sound (h : s.Steady) {chunk : List UInt8} (hworker : s.worker = .delivering chunk)
    {written sunk : Bool} (hthrows : ¬((written = true ∧ sunk = true ∨ s.stopper ≠ .idle) ∧
      (written = true → s.SinkOpen))) : ¬(s.deliver chunk written sunk).Sound := by
  by_cases hclosed : written = true ∧ ¬s.SinkOpen
  · obtain ⟨rfl, hclosed⟩ := hclosed
    have hmem : SinkCall.onStreamStopped ∈ s.sink := by
      have hcount := h.counted .onStreamStopped
      have hmade := List.count_pos_iff.mpr (not_not.mp hclosed)
      exact List.count_pos_iff.mp (by rw [← calls, hcount]; omega)
    refine Broken.not_sound ⟨chunk, s.sampleRate, ?_⟩
    exact (List.singleton_sublist.mpr hmem).append (List.Sublist.refl [_])
  · have hopen : written = true → s.SinkOpen := fun hw => not_not.mp fun hs => hclosed ⟨hw, hs⟩
    rw [not_and_or, or_iff_left (not_not.mpr hopen), not_or, not_not] at hthrows
    obtain ⟨hthrows, hidle⟩ := hthrows
    have hthrew : (s.deliver chunk written sunk).worker = .threw none ∧
        (s.deliver chunk written sunk).stopper = s.stopper := by
      cases written with
      | true =>
        obtain rfl : sunk = false := by simpa using hthrows
        exact ⟨rfl, rfl⟩
      | false => exact ⟨rfl, rfl⟩
    refine not_sound_of_over ⟨by simp [hthrew.1], hthrew.1 ▸ rfl, Or.inl (hthrew.2.trans hidle)⟩ .release ?_
    rw [calls_deliver]
    exact calls_fresh h hworker rfl hidle .release

/-- After a step out of order something is wrong at once, or it is whenever the recording is over. -/
theorem not_sound_after (h : s.Steady) (a : AudioAct) (ha : ¬s.Orderly a) :
    ¬(s.step a).Sound ∨ ∀ is, (run step (s.step a) is).Over → ¬(run step (s.step a) is).Sound := by
  have hcounted := h.counted.step a
  have hphase := h.phase
  have twice (htwice : (s.step a).Twice) (is : List AudioAct) (hover : (run step (s.step a) is).Over) :
      ¬(run step (s.step a) is).Sound :=
    (run_invariant_of_step Twice (fun _ i ht => ht.step i) is htwice).not_sound
      (run_invariant_of_step Counted (fun _ i hc => hc.step i) is hcounted) hover
  cases a with
  | start recorderOk sinkOk =>
    simp only [Orderly, Classical.not_imp] at ha
    obtain ⟨hworker, hthrows⟩ := ha
    rw [hworker] at hphase
    have hnone : (s.start recorderOk sinkOk).worker = .none := by
      rw [start]
      exact if_neg (by simpa using hthrows)
    rw [AudioRecordSession.step, if_pos hworker]
    refine Or.inl (not_sound_of_over ⟨by simp [hnone], hnone ▸ rfl, Or.inl hphase⟩ .release
      ((calls_start s recorderOk sinkOk .release).trans ?_))
    exact calls_fresh h hworker rfl hphase .release
  | openOutput now ok =>
    simp only [Orderly, Classical.not_imp, not_or, not_not, Bool.not_eq_true] at ha
    obtain ⟨hworker, rfl, hidle⟩ := ha
    rw [AudioRecordSession.step, if_pos hworker]
    refine Or.inl (not_sound_of_over ⟨by rintro ⟨⟩, rfl, Or.inl hidle⟩ .release ?_)
    exact calls_fresh h hworker rfl hidle .release
  | check now =>
    simp only [Orderly, Classical.not_imp] at ha
    obtain ⟨hworker, hstopper⟩ := ha
    refine Or.inr (twice ?_)
    rw [AudioRecordSession.step, if_pos hworker, check, if_neg (by simp [h.flag hstopper])]
    exact ⟨rfl, hstopper⟩
  | read data => exact (ha trivial).elim
  | deliver written sunk =>
    simp only [Orderly, Classical.not_forall] at ha
    obtain ⟨chunk, hworker, hthrows⟩ := ha
    have hstep : s.step (.deliver written sunk) = s.deliver chunk written sunk := by
      simp only [AudioRecordSession.step, hworker]
    rw [hstep]
    exact Or.inl (deliver_not_sound h hworker hthrows)
  | workerCloses ok =>
    simp only [Orderly, Classical.not_forall, not_or, Bool.not_eq_true] at ha
    obtain ⟨call, hworker, rfl, hne⟩ := ha
    rw [hworker] at hphase
    have hidle : s.stopper = .idle := hphase
    have hstep : s.step (.workerCloses false) = s.workerCloses call false := by
      simp only [AudioRecordSession.step, hworker]
    rw [hstep]
    refine Or.inl (not_sound_of_over ⟨by rintro ⟨⟩, rfl, Or.inl ((stopper_call s call).trans hidle)⟩ .release ?_)
    refine (calls_call s call .release).trans ?_
    rw [h.counted, hworker, hidle]
    cases call with
    | release => exact (hne rfl).elim
    | _ => rfl
  | stop =>
    simp only [Orderly, Classical.not_imp, Bool.not_eq_true] at ha
    obtain ⟨hstarted, hidle, hloop⟩ := ha
    refine Or.inr (twice ?_)
    rw [AudioRecordSession.step, if_pos ⟨hstarted, hidle⟩]
    exact ⟨Phase.left (hidle ▸ hphase) hstarted hloop, by rintro ⟨⟩⟩
  | join timedOut => exact (ha trivial).elim
  | stopperCloses => exact (ha trivial).elim

theorem steady_fresh (sampleRate : Int) (maxDurationMs : Nat) :
    (fresh sampleRate maxDurationMs).Steady :=
  ⟨fun call => by cases call <;> rfl, fun h => absurd rfl h, rfl, Or.inl ⟨rfl, rfl, rfl⟩⟩

theorem orderly_of_sound (h : s.Steady) {is : List AudioAct} (hover : (run step s is).Over)
    (hsound : ∀ pre post, is = pre ++ post → (run step s pre).Sound) : Along step Orderly s is := by
  induction is generalizing s with
  | nil => trivial
  | cons a is ih =>
    by_cases ha : s.Orderly a
    · refine ⟨ha, ih (h.step a ha) hover ?_⟩
      rintro pre post rfl
      exact hsound (a :: pre) post rfl
    · exfalso
      rcases not_sound_after h a ha with hnow | hlater
      · exact hnow (hsound [a] is rfl)
      · exact hlater is hover (hsound (a :: is) [] (List.append_nil _).symm)

/-- A recording is sound in every state of an orderly run, and one that is over was sound in all its
states only where its run was orderly. -/
theorem closed_once_iff (sampleRate : Int) (maxDurationMs : Nat) :
    (∀ is, Along step Orderly (fresh sampleRate maxDurationMs) is →
      (run step (fresh sampleRate maxDurationMs) is).Sound) ∧
    ∀ is, (run step (fresh sampleRate maxDurationMs) is).Over →
      ((∀ pre post, is = pre ++ post → (run step (fresh sampleRate maxDurationMs) pre).Sound) ↔
        Along step Orderly (fresh sampleRate maxDurationMs) is) := by
  have hfresh := steady_fresh sampleRate maxDurationMs
  have sound (is : List AudioAct) (h : Along step Orderly (fresh sampleRate maxDurationMs) is) :
      (run step (fresh sampleRate maxDurationMs) is).Sound :=
    (run_invariant Steady (fun _ i hs hi => hs.step i hi) hfresh h).sound
  refine ⟨sound, fun is hover => ⟨orderly_of_sound hfresh hover, ?_⟩⟩
  rintro h pre post rfl
  exact sound pre h.before

/-- A recording that ends by its deadline, and one that a stop ends while the sink fails -/
theorem closed_once_iff_ends :
    let ends : List AudioAct := [.start true true, .openOutput 0 true, .check 5, .read [1, 2],
      .deliver true true, .check 1000, .workerCloses true, .workerCloses true, .workerCloses true]
    let fails : List AudioAct := [.start true true, .openOutput 0 true, .check 5, .read [1, 2], .stop,
      .deliver true false, .join false, .stopperCloses, .stopperCloses, .stopperCloses]
    (run step (fresh 16000 1000) ends).Sound ∧
      ∀ pre post, fails = pre ++ post → (run step (fresh 16000 1000) pre).Sound := by
  intro ends fails
  have hends : Along step Orderly (fresh 16000 1000) ends :=
    ⟨fun _ => ⟨rfl, rfl⟩, fun _ => Or.inl rfl, fun _ => rfl, trivial,
      fun _ _ => ⟨Or.inl ⟨rfl, rfl⟩, fun _ => List.not_mem_nil⟩, fun _ => rfl, fun _ _ => Or.inl rfl,
      fun _ _ => Or.inl rfl, fun _ _ => Or.inl rfl, trivial⟩
  have hfails : Along step Orderly (fresh 16000 1000) fails :=
    ⟨fun _ => ⟨rfl, rfl⟩, fun _ => Or.inl rfl, fun _ => rfl, trivial, fun _ _ => rfl,
      fun _ _ => ⟨Or.inr (by rintro ⟨⟩), fun _ => List.not_mem_nil⟩, trivial, trivial, trivial, trivial, trivial⟩
  exact ⟨(closed_once_iff 16000 1000).1 ends hends,
    ((closed_once_iff 16000 1000).2 fails ⟨by rintro ⟨⟩, rfl, Or.inr rfl⟩).mpr hfails⟩

/-- A stop of a recording that goes well: the sink and the recorder are closed by both threads; and a
sink that fails: nothing is closed. -/
theorem stop_closes_twice :
    let stopped := run step (fresh 16000 1000) [.start true true, .openOutput 0 true, .check 5,
      .read [1, 2], .deliver true true, .stop, .check 10, .workerCloses true, .workerCloses true,
      .workerCloses true, .join false, .stopperCloses, .stopperCloses, .stopperCloses]
    let failed := run step (fresh 16000 1000) [.start true true, .openOutput 0 true, .check 5,
      .read [1, 2], .deliver true false]
    stopped.sink = [.onStreamStarted "audio/pcm" 16000, .onChunk [1, 2] 16000, .onStreamStopped,
        .onStreamStopped] ∧
      stopped.recorder = [.startRecording, .stop, .release, .stop, .release] ∧ ¬stopped.Sound ∧
      failed.Over ∧ failed.recorder = [.startRecording] ∧ ¬failed.Sound := by
  intro stopped failed
  have hstopped : stopped.Over := ⟨by rintro ⟨⟩, rfl, Or.inr rfl⟩
  have hfailed : failed.Over := ⟨by rintro ⟨⟩, rfl, Or.inl rfl⟩
  refine ⟨by decide, by decide, fun h => ?_, hfailed, by decide, fun h => ?_⟩
  · exact absurd (h.closed_over hstopped).1 (by decide)
  · exact absurd (h.closed_over hfailed).1 (by decide)

end Exactness

end AudioRecordSession

end AdbControl.Companion
