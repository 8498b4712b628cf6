import AdbControl.Companion.Protocol
import AdbControl.Framework.Run

namespace AdbControl.Companion

open Framework

/-- What a recording calls of its `MediaStreamSink` -/
inductive SinkCall
  | onStreamStarted (mimeType : String) (sampleRate : Int)
  | onChunk (chunk : List UInt8) (sampleRate : Int)
  | onStreamStopped
  deriving DecidableEq

/-- The message that `QuicMediaStreamSink` sends for a call -/
def SinkCall.kind : SinkCall → QuicMessageKind
  | onStreamStarted _ _ => .streamOpen
  | onChunk _ _ => .streamChunk
  | onStreamStopped => .streamClose

/-- What a recording calls of its `AudioRecord`, but for `read` -/
inductive RecorderCall
  | startRecording
  | stop
  | release
  deriving DecidableEq

/-- The calls that close a recording, of the sink and then of the recorder -/
inductive Closing
  | onStreamStopped
  | stop
  | release
  deriving DecidableEq

def Closing.all : List Closing := [.onStreamStopped, .stop, .release]

def Closing.before : Closing → List Closing
  | onStreamStopped => []
  | stop => [.onStreamStopped]
  | release => [.onStreamStopped, .stop]

/-- Where the worker of a recording stands. It has no thread where `start` threw; where it threw
itself, it did so in its loop or at a closing call. -/
inductive AudioWorker
  | unstarted
  | none
  | opening
  | looping
  | reading
  | delivering (chunk : List UInt8)
  | closing (call : Closing)
  | ended
  | threw (call : Option Closing)
  deriving DecidableEq

/-- Where `stop` stands; it is called once, since its command takes the session out of the map. -/
inductive AudioStopper
  | idle
  | joining
  | closing (call : Closing)
  | done
  deriving DecidableEq

namespace AudioWorker

def inLoop : AudioWorker → Bool
  | opening | looping | reading | delivering _ => true
  | _ => false

def running : AudioWorker → Bool
  | closing _ => true
  | worker => worker.inLoop

/-- The worker has left its loop to close the recording. -/
def left : AudioWorker → Bool
  | closing _ | ended | threw (some _) => true
  | _ => false

/-- Behind the closing call -/
def closed : Closing → AudioWorker
  | .onStreamStopped => .closing .stop
  | .stop => .closing .release
  | .release => .ended

/-- The closing calls that the worker has made -/
def made : AudioWorker → List Closing
  | closing call => call.before
  | ended => Closing.all
  | threw (some call) => call.before ++ [call]
  | _ => []

end AudioWorker

namespace AudioStopper

def closed : Closing → AudioStopper
  | .onStreamStopped => .closing .stop
  | .stop => .closing .release
  | .release => .done

def made : AudioStopper → List Closing
  | closing call => call.before
  | done => Closing.all
  | _ => []

end AudioStopper

structure AudioRecordSession where
  sampleRate : Int
  maxDurationMs : Nat
  active : Bool := false
  deadline : Nat := 0
  worker : AudioWorker := .unstarted
  stopper : AudioStopper := .idle
  /-- the chunks that the recorder has read, the first first -/
  recorded : List (List UInt8) := []
  output : List UInt8 := []
  sink : List SinkCall := []
  recorder : List RecorderCall := []

def AudioRecordSession.fresh (sampleRate : Int) (maxDurationMs : Nat) : AudioRecordSession where
  sampleRate := sampleRate
  maxDurationMs := maxDurationMs

/-- What the threads do next, with the clock, the bytes read, and which calls return. -/
inductive AudioAct
  | start (recorderOk sinkOk : Bool)
  | openOutput (now : Nat) (ok : Bool)
  | check (now : Nat)
  | read (data : List UInt8)
  | deliver (written sunk : Bool)
  | workerCloses (ok : Bool)
  | stop
  | join (timedOut : Bool)
  | stopperCloses

namespace AudioRecordSession

def start (s : AudioRecordSession) (recorderOk sinkOk : Bool) : AudioRecordSession :=
  { s with
    active := true
    recorder := s.recorder ++ [.startRecording]
    sink := s.sink ++ if recorderOk then [.onStreamStarted "audio/pcm" s.sampleRate] else []
    worker := if recorderOk && sinkOk then .opening else .none }

def openOutput (s : AudioRecordSession) (now : Nat) (ok : Bool) : AudioRecordSession :=
  { s with
    deadline := now + s.maxDurationMs
    worker := if ok then .looping else .threw none }

/-- The condition of the loop, and the flag behind it -/
def check (s : AudioRecordSession) (now : Nat) : AudioRecordSession :=
  if s.active = true ∧ now < s.deadline then { s with worker := .reading }
  else { s with active := false, worker := .closing .onStreamStopped }

def read (s : AudioRecordSession) (data : List UInt8) : AudioRecordSession :=
  if data = [] then { s with worker := .looping }
  else { s with recorded := s.recorded ++ [data], worker := .delivering data }

def deliver (s : AudioRecordSession) (chunk : List UInt8) (written sunk : Bool) : AudioRecordSession :=
  if written then
    { s with
      output := s.output ++ chunk
      sink := s.sink ++ [.onChunk chunk s.sampleRate]
      worker := if sunk then .looping else .threw none }
  else { s with worker := .threw none }

/-- A call is seen where it throws as well. -/
def call (s : AudioRecordSession) : Closing → AudioRecordSession
  | .onStreamStopped => { s with sink := s.sink ++ [.onStreamStopped] }
  | .stop => { s with recorder := s.recorder ++ [.stop] }
  | .release => { s with recorder := s.recorder ++ [.release] }

def workerCloses (s : AudioRecordSession) (call : Closing) (ok : Bool) : AudioRecordSession :=
  { s.call call with worker := if ok then .closed call else .threw (some call) }

def stop (s : AudioRecordSession) : AudioRecordSession :=
  { s with active := false, stopper := .joining }

/-- `join` returns when the thread is done, or there is none, or after its second. -/
def join (s : AudioRecordSession) (timedOut : Bool) : AudioRecordSession :=
  if s.worker.running = true ∧ timedOut = false then s
  else { s with stopper := .closing .onStreamStopped }

/-- Whatever a closing call of `stop` throws is caught. -/
def stopperCloses (s : AudioRecordSession) (call : Closing) : AudioRecordSession :=
  { s.call call with stopper := .closed call }

/-- What does not come next leaves the session as it is; the commands come one after the other. -/
def step (s : AudioRecordSession) : AudioAct → AudioRecordSession
  | .start recorderOk sinkOk => if s.worker = .unstarted then s.start recorderOk sinkOk else s
  | .openOutput now ok => if s.worker = .opening then s.openOutput now ok else s
  | .check now => if s.worker = .looping then s.check now else s
  | .read data => if s.worker = .reading then s.read data else s
  | .deliver written sunk =>
    match s.worker with
    | .delivering chunk => s.deliver chunk written sunk
    | _ => s
  | .workerCloses ok =>
    match s.worker with
    | .closing call => s.workerCloses call ok
    | _ => s
  | .stop => if s.worker ≠ .unstarted ∧ s.stopper = .idle then s.stop else s
  | .join timedOut => if s.stopper = .joining then s.join timedOut else s
  | .stopperCloses =>
    match s.stopper with
    | .closing call => s.stopperCloses call
    | _ => s

/-- The recording is over: `start` has returned or thrown, and no thread is at work. -/
def Over (s : AudioRecordSession) : Prop :=
  s.worker ≠ .unstarted ∧ s.worker.running = false ∧ (s.stopper = .idle ∨ s.stopper = .done)

/-- The calls of a sink that is opened once, is given the chunks, and is closed or not. -/
def streamed (s : AudioRecordSession) (chunks : List (List UInt8)) (stopped : Bool) : List SinkCall :=
  .onStreamStarted "audio/pcm" s.sampleRate :: (chunks.map fun chunk => .onChunk chunk s.sampleRate) ++
    if stopped then [.onStreamStopped] else []

/-- The sink sees the stream in its order, with the chunks as they were recorded, and nothing is
closed twice; when the recording is over, all is closed. -/
structure Sound (s : AudioRecordSession) : Prop where
  ordered : s.sink = [] ∨ ∃ chunks stopped, chunks <+: s.recorded ∧ s.sink = s.streamed chunks stopped
  closed_le : s.recorder.count .stop ≤ 1 ∧ s.recorder.count .release ≤ 1
  closed_over : s.Over → s.sink.count .onStreamStopped = 1 ∧ s.recorder.count .stop = 1 ∧
    s.recorder.count .release = 1

section Counts

variable {s : AudioRecordSession}

/-- How often a closing call was made -/
def calls (s : AudioRecordSession) : Closing → Nat
  | .onStreamStopped => s.sink.count .onStreamStopped
  | .stop => s.recorder.count .stop
  | .release => s.recorder.count .release

/-- Each thread has made the closing calls that it has come past. -/
def Counted (s : AudioRecordSession) : Prop :=
  ∀ call, s.calls call = s.worker.made.count call + s.stopper.made.count call

theorem calls_call (s : AudioRecordSession) (call other : Closing) :
    (s.call call).calls other = s.calls other + [call].count other := by
  cases call <;> cases other <;> simp [AudioRecordSession.call, calls]

@[simp] theorem worker_call (s : AudioRecordSession) (call : Closing) :
    (s.call call).worker = s.worker := by
  cases call <;> rfl

@[simp] theorem stopper_call (s : AudioRecordSession) (call : Closing) :
    (s.call call).stopper = s.stopper := by
  cases call <;> rfl

theorem made_closed (call : Closing) : (AudioWorker.closed call).made = call.before ++ [call] ∧
    (AudioStopper.closed call).made = call.before ++ [call] := by
  cases call <;> exact ⟨rfl, rfl⟩

theorem calls_start (s : AudioRecordSession) (recorderOk sinkOk : Bool) (call : Closing) :
    (s.start recorderOk sinkOk).calls call = s.calls call := by
  cases call <;> cases recorderOk <;> simp [start, calls]

theorem calls_deliver (s : AudioRecordSession) (chunk : List UInt8) (written sunk : Bool)
    (call : Closing) : (s.deliver chunk written sunk).calls call = s.calls call := by
  cases call <;> cases written <;> simp [deliver, calls]

/-- What a step can do -/
inductive Moves (s : AudioRecordSession) : AudioAct → AudioRecordSession → Prop
  | stays (a : AudioAct) : Moves s a s
  | start (hworker : s.worker = .unstarted) (recorderOk sinkOk : Bool) :
    Moves s (.start recorderOk sinkOk) (s.start recorderOk sinkOk)
  | openOutput (hworker : s.worker = .opening) (now : Nat) (ok : Bool) :
    Moves s (.openOutput now ok) (s.openOutput now ok)
  | check (hworker : s.worker = .looping) (now : Nat) : Moves s (.check now) (s.check now)
  | read (hworker : s.worker = .reading) (data : List UInt8) : Moves s (.read data) (s.read data)
  | deliver {chunk : List UInt8} (hworker : s.worker = .delivering chunk) (written sunk : Bool) :
    Moves s (.deliver written sunk) (s.deliver chunk written sunk)
  | workerCloses {call : Closing} (hworker : s.worker = .closing call) (ok : Bool) :
    Moves s (.workerCloses ok) (s.workerCloses call ok)
  | stop (hworker : s.worker ≠ .unstarted) (hstopper : s.stopper = .idle) : Moves s .stop s.stop
  | join (hstopper : s.stopper = .joining) (timedOut : Bool) : Moves s (.join timedOut) (s.join timedOut)
  | stopperCloses {call : Closing} (hstopper : s.stopper = .closing call) :
    Moves s .stopperCloses (s.stopperCloses call)

theorem step_moves (s : AudioRecordSession) (a : AudioAct) : s.Moves a (s.step a) := by
  cases a with
  | start recorderOk sinkOk =>
    simp only [step]
    split_ifs with h
    · exact .start h recorderOk sinkOk
    · exact .stays _
  | openOutput now ok =>
    simp only [step]
    split_ifs with h
    · exact .openOutput h now ok
    · exact .stays _
  | check now =>
    simp only [step]
    split_ifs with h
    · exact .check h now
    · exact .stays _
  | read data =>
    simp only [step]
    split_ifs with h
    · exact .read h data
    · exact .stays _
  | deliver written sunk =>
    simp only [step]
    split
    · next h => exact .deliver h written sunk
    · exact .stays _
  | workerCloses ok =>
    simp only [step]
    split
    · next h => exact .workerCloses h ok
    · exact .stays _
  | stop =>
    simp only [step]
    split_ifs with h
    · exact .stop h.1 h.2
    · exact .stays _
  | join timedOut =>
    simp only [step]
    split_ifs with h
    · exact .join h timedOut
    · exact .stays _
  | stopperCloses =>
    simp only [step]
    split
    · next h => exact .stopperCloses h
    · exact .stays _

theorem Counted.of_same {t : AudioRecordSession} (h : s.Counted) (hcalls : ∀ call, t.calls call = s.calls call)
    (hworker : t.worker.made = s.worker.made) (hstopper : t.stopper.made = s.stopper.made) : t.Counted := by
  intro call
  rw [hcalls, hworker, hstopper]
  exact h call

theorem Counted.step (h : s.Counted) (a : AudioAct) : (s.step a).Counted := by
  have hmoves := s.step_moves a
  generalize s.step a = t at hmoves ⊢
  cases hmoves with
  | stays => exact h
  | start hworker recorderOk sinkOk =>
    refine h.of_same (calls_start s recorderOk sinkOk) ?_ rfl
    rw [hworker]
    cases recorderOk <;> cases sinkOk <;> rfl
  | openOutput hworker now ok =>
    refine h.of_same (fun call => by cases call <;> rfl) ?_ rfl
    rw [hworker]
    cases ok <;> rfl
  | check hworker now =>
    unfold check
    split_ifs <;> exact h.of_same (fun call => by cases call <;> rfl) (by rw [hworker]; rfl) rfl
  | read hworker data =>
    unfold read
    split_ifs <;> exact h.of_same (fun call => by cases call <;> rfl) (by rw [hworker]; rfl) rfl
  | deliver hworker written sunk =>
    refine h.of_same (calls_deliver s _ written sunk) ?_ (by cases written <;> rfl)
    rw [hworker]
    cases written <;> cases sunk <;> rfl
  | @workerCloses call hworker ok =>
    intro other
    have hcount := h other
    have hmade : (s.workerCloses call ok).worker.made = call.before ++ [call] := by
      cases ok with
      | true => exact (made_closed call).1
      | false => rfl
    rw [hworker, AudioWorker.made] at hcount
    rw [show (s.workerCloses call ok).calls other = s.calls other + [call].count other from
      calls_call s call other, hmade, List.count_append,
      show (s.workerCloses call ok).stopper = s.stopper from stopper_call s call]
    omega
  | stop _ hstopper => exact h.of_same (fun call => by cases call <;> rfl) rfl (by rw [hstopper]; rfl)
  | join hstopper timedOut =>
    unfold join
    split_ifs
    · exact h
    · exact h.of_same (fun call => by cases call <;> rfl) rfl (by rw [hstopper]; rfl)
  | @stopperCloses call hstopper =>
    intro other
    have hcount := h other
    rw [hstopper, AudioStopper.made] at hcount
    rw [show (s.stopperCloses call).calls other = s.calls other + [call].count other from
      calls_call s call other, show (s.stopperCloses call).stopper.made = call.before ++ [call] from
      (made_closed call).2, List.count_append,
      show (s.stopperCloses call).worker = s.worker from worker_call s call]
    omega

end Counts

end AudioRecordSession

end AdbControl.Companion
