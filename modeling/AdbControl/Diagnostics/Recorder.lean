import AdbControl.Diagnostics.Event
import AdbControl.Framework.Rotation
import AdbControl.Framework.Run
import AdbControl.Framework.Threads

namespace AdbControl.Diagnostics

open Framework

section Writer

/-- How the writing of a line ends: before the file is open, after the first `n` bytes, or well. -/
inductive WriteEnd
  | noDirectory
  | notOpened
  | torn (n : Nat)
  | written
  deriving DecidableEq, Repr

def maxFileBytes : Nat := 2 * 1024 * 1024

/-- The thread `core-diagnostics` and the files `events-core-<pid>-<generation>.jsonl` -/
structure Writer where
  generation : Nat
  bytes : Nat
  files : Nat → List UInt8

namespace Writer

def roll (w : Writer) : Writer :=
  if maxFileBytes < w.bytes then { w with generation := (w.generation + 1) % 4, bytes := 0 } else w

/-- What the file keeps when it is opened: `.append(bytes != 0).truncate(bytes == 0)` -/
def current (w : Writer) : List UInt8 := if w.bytes = 0 then [] else w.files w.generation

def put (w : Writer) (text : List UInt8) : Writer :=
  { w with files := Function.update w.files w.generation (w.current ++ text) }

def store (w : Writer) (text : List UInt8) : WriteEnd → Writer
  | .noDirectory => w
  | .notOpened => w
  | .torn n => w.put (text.take n)
  | .written => { w.put text with bytes := w.bytes + text.length }

/-- `writeln!(file, "{line}")`, in the generation whose turn it is -/
def handle (w : Writer) (line : List UInt8) (ending : WriteEnd) : Writer :=
  w.roll.store (line ++ [10]) ending

/-- What a write adds to the log for good: a torn first line is cut off again by the next one. -/
def stores (w : Writer) (text : List UInt8) : WriteEnd → List UInt8
  | .noDirectory => []
  | .notOpened => []
  | .torn n => if w.bytes = 0 then [] else text.take n
  | .written => text

def adds (w : Writer) (line : List UInt8) (ending : WriteEnd) : List UInt8 :=
  w.roll.stores (line ++ [10]) ending

/-- The log on disk, oldest file first -/
def log (w : Writer) : List UInt8 := resting 4 w.files w.generation ++ w.current

end Writer

end Writer

section Channel

inductive Pending
  | line (line : String)
  | flush (done : Nat)
  deriving DecidableEq, Repr

/-- Where a call of `record` is: its event is built, or its event was refused and is not counted yet. -/
inductive Caller
  | idle
  | built (line : String)
  | refused
  deriving DecidableEq, Repr

def Caller.isBuilt : Caller → Bool
  | built _ => true
  | _ => false

def Caller.isRefused : Caller → Bool
  | refused => true
  | _ => false

def channelBound : Nat := 1024

structure Recorder where
  callers : List Caller
  queue : List Pending
  /-- The receiver is there: the worker was started and has not panicked. -/
  connected : Bool
  dropped : UInt64
  writer : Writer
  /-- The flushes that the worker has answered -/
  answered : List Nat

inductive Act
  | record (k : Nat) (r : Record) (now : UInt64)
  | send (k : Nat)
  | count (k : Nat)
  | flush (done : Nat)
  | work (ending : WriteEnd)
  | hangUp

/-- What is seen of a step -/
inductive Note
  | begun
  | accepted (p : Pending)
  | refused
  | counted
  | handled (p : Pending)
  | stored (text : List UInt8)

namespace Note

def isBegun : Note → Bool
  | begun => true
  | _ => false

def isRefused : Note → Bool
  | refused => true
  | _ => false

def isCounted : Note → Bool
  | counted => true
  | _ => false

def acceptedItem : Note → Option Pending
  | accepted p => some p
  | _ => none

def handledItem : Note → Option Pending
  | handled p => some p
  | _ => none

def storedText : Note → List UInt8
  | stored text => text
  | _ => []

end Note

def Pending.isLine : Pending → Bool
  | line _ => true
  | flush _ => false

def Pending.flushed : Pending → Option Nat
  | line _ => none
  | flush done => some done

namespace Recorder

def start (callers : Nat) (files : Nat → List UInt8) : Recorder :=
  ⟨List.replicate callers .idle, [], true, 0, ⟨0, 0, files⟩, []⟩

def hasRoom (s : Recorder) : Bool := s.connected && s.queue.length < channelBound

def move (s : Recorder) (k : Nat) (c : Caller) : Recorder := { s with callers := s.callers.set k c }

def push (s : Recorder) (p : Pending) : Recorder := { s with queue := s.queue ++ [p] }

def step (process : Process) (s : Recorder) : Act → Recorder
  | .record k r now =>
    match s.callers[k]? with
    | some .idle => s.move k (.built (lineOf (event process now s.dropped r)))
    | _ => s
  | .send k =>
    match s.callers[k]? with
    | some (.built line) =>
      if s.hasRoom then (s.push (.line line)).move k .idle else s.move k .refused
    | _ => s
  | .count k =>
    match s.callers[k]? with
    | some .refused => { s.move k .idle with dropped := s.dropped + 1 }
    | _ => s
  | .flush done => if s.hasRoom then s.push (.flush done) else s
  | .work ending =>
    match s.queue with
    | .line line :: queue =>
      { s with queue := queue, writer := s.writer.handle (utf8Bytes line) ending }
    | .flush done :: queue => { s with queue := queue, answered := s.answered ++ [done] }
    | [] => s
  -- the receiver goes, and with it all that waits in the channel
  | .hangUp => { s with connected := false, queue := [] }

def notes (s : Recorder) : Act → List Note
  | .record k _ _ =>
    match s.callers[k]? with
    | some .idle => [.begun]
    | _ => []
  | .send k =>
    match s.callers[k]? with
    | some (.built line) => if s.hasRoom then [.accepted (.line line)] else [.refused]
    | _ => []
  | .count k =>
    match s.callers[k]? with
    | some .refused => [.counted]
    | _ => []
  | .flush done => if s.hasRoom then [.accepted (.flush done)] else []
  | .work ending =>
    match s.queue with
    | .line line :: _ => [.handled (.line line), .stored (s.writer.adds (utf8Bytes line) ending)]
    | .flush done :: _ => [.handled (.flush done)]
    | [] => []
  | .hangUp => []

end Recorder

/-- What was put into the channel, in this order -/
def accepted (h : List Note) : List Pending := h.filterMap Note.acceptedItem

def handled (h : List Note) : List Pending := h.filterMap Note.handledItem

@[simp] theorem accepted_append (h more : List Note) :
    accepted (h ++ more) = accepted h ++ accepted more := List.filterMap_append

@[simp] theorem handled_append (h more : List Note) :
    handled (h ++ more) = handled h ++ handled more := List.filterMap_append

section Books

variable {h more : List Note} {connected : Bool} {queue : List Pending} {p : Pending}

/-- What the worker has handled, and then what waits, is what was accepted, in its order; less may
wait once the worker is gone. -/
structure InOrder (connected : Bool) (queue : List Pending) (h : List Note) : Prop where
  order : handled h ++ queue <+: accepted h
  whole : connected = true → handled h ++ queue = accepted h
  bounded : queue.length ≤ channelBound

theorem InOrder.pass (hb : InOrder connected queue h) (haccepted : accepted more = [])
    (hhandled : handled more = []) : InOrder connected queue (h ++ more) := by
  refine ⟨?_, ?_, hb.bounded⟩
  · simpa [haccepted, hhandled] using hb.order
  · simpa [haccepted, hhandled] using hb.whole

theorem InOrder.push (hb : InOrder true queue h) (hroom : queue.length < channelBound) :
    InOrder true (queue ++ [p]) (h ++ [.accepted p]) := by
  have whole : handled (h ++ [.accepted p]) ++ (queue ++ [p]) = accepted (h ++ [.accepted p]) := by
    rw [handled_append, accepted_append, ← hb.whole rfl]
    simp [accepted, handled, Note.acceptedItem, Note.handledItem]
  refine ⟨whole ▸ List.prefix_refl _, fun _ => whole, ?_⟩
  rw [List.length_append, List.length_singleton]
  exact hroom

theorem InOrder.take (hb : InOrder connected (p :: queue) h) (haccepted : accepted more = [])
    (hhandled : handled more = [p]) : InOrder connected queue (h ++ more) := by
  refine ⟨?_, ?_, Nat.le_of_succ_le hb.bounded⟩
  · simpa [haccepted, hhandled] using hb.order
  · simpa [haccepted, hhandled] using hb.whole

theorem InOrder.hangUp (hb : InOrder connected queue h) : InOrder false [] h := by
  refine ⟨?_, fun hfalse => (Bool.false_ne_true hfalse).elim, Nat.zero_le _⟩
  rw [List.append_nil]
  exact (List.prefix_append _ _).trans hb.order

/-- The counter of dropped events says how many were refused, but for those whose callers are about to
count them; and every event that was begun was accepted, or was refused, or is in its caller's hands. -/
structure Tallied (callers : List Caller) (dropped : UInt64) (h : List Note) : Prop where
  dropped : dropped = UInt64.ofNat (h.countP Note.isCounted)
  refused : h.countP Note.isRefused = h.countP Note.isCounted + callers.countP Caller.isRefused
  begun : h.countP Note.isBegun =
    (accepted h).countP Pending.isLine + h.countP Note.isRefused + callers.countP Caller.isBuilt

variable {callers : List Caller} {dropped : UInt64} {k : Nat} {c : Caller}

theorem Tallied.pass (hb : Tallied callers dropped h)
    (hbegun : more.countP Note.isBegun = (accepted more).countP Pending.isLine)
    (hrefused : more.countP Note.isRefused = 0) (hcounted : more.countP Note.isCounted = 0) :
    Tallied callers dropped (h ++ more) := by
  have refused := hb.refused
  have begun := hb.begun
  constructor
  · rw [List.countP_append, hcounted]
    exact hb.dropped
  · rw [List.countP_append, List.countP_append]
    omega
  · rw [List.countP_append, List.countP_append, accepted_append, List.countP_append]
    omega

/-- One caller moves and one thing is seen of it: the two balance. -/
theorem Tallied.move (hb : Tallied callers dropped h) (hk : callers[k]? = some c) {c' : Caller} {n : Note}
    {dropped' : UInt64} (hdropped : dropped' = dropped + UInt64.ofNat (if n.isCounted then 1 else 0))
    (hrefused : (if n.isRefused then 1 else 0) + (if c.isRefused then 1 else 0) =
      (if n.isCounted then 1 else 0) + if c'.isRefused then 1 else 0)
    (hbegun : (if n.isBegun then 1 else 0) + (if c.isBuilt then 1 else 0) =
      (accepted [n]).countP Pending.isLine + (if n.isRefused then 1 else 0) + if c'.isBuilt then 1 else 0) :
    Tallied (callers.set k c') dropped' (h ++ [n]) := by
  have built := countP_moved Caller.isBuilt hk c'
  have refused := countP_moved Caller.isRefused hk c'
  have before := hb.refused
  have begun := hb.begun
  constructor
  · rw [List.countP_append, List.countP_singleton, UInt64.ofNat_add, ← hb.dropped, hdropped]
  · rw [List.countP_append, List.countP_append, List.countP_singleton, List.countP_singleton]
    omega
  · rw [List.countP_append, List.countP_append, accepted_append, List.countP_append,
      List.countP_singleton, List.countP_singleton]
    omega

end Books

namespace Recorder

variable {process : Process} {s : Recorder} {h : List Note}

/-- The books of a run balance. -/
structure Booked (s : Recorder) (h : List Note) : Prop where
  queued : InOrder s.connected s.queue h
  tallied : Tallied s.callers s.dropped h
  answered : s.answered = (handled h).filterMap Pending.flushed

theorem booked_start (callers : Nat) (files : Nat → List UInt8) : (start callers files).Booked [] := by
  refine ⟨⟨List.prefix_refl _, fun _ => rfl, Nat.zero_le _⟩, ⟨rfl, ?_, ?_⟩, rfl⟩
  · rw [start, List.countP_replicate, if_neg (by decide)]
    rfl
  · rw [start, List.countP_replicate, if_neg (by decide)]
    rfl

theorem hasRoom_iff : s.hasRoom = true ↔ s.connected = true ∧ s.queue.length < channelBound := by
  simp [hasRoom]

theorem Booked.step (hb : s.Booked h) (a : Act) : (step process s a).Booked (h ++ notes s a) := by
  have same : s.Booked (h ++ []) := by rwa [List.append_nil]
  have unanswered {more : List Note} (hmore : handled more = []) :
      s.answered = (handled (h ++ more)).filterMap Pending.flushed := by
    rw [handled_append, hmore, List.append_nil]
    exact hb.answered
  have push (hroom : s.hasRoom = true) (p : Pending) :
      InOrder s.connected (s.queue ++ [p]) (h ++ [.accepted p]) := by
    rw [hasRoom_iff] at hroom
    have queued := hb.queued
    rw [hroom.1] at queued ⊢
    exact queued.push hroom.2
  have zero : s.dropped = s.dropped + UInt64.ofNat 0 := (UInt64.add_zero _).symm
  have queued := hb.queued
  cases a with
  | record k r now =>
    simp only [Recorder.step, notes]
    split
    next hk => exact ⟨queued.pass rfl rfl, hb.tallied.move hk zero rfl rfl, unanswered rfl⟩
    next => exact same
  | send k =>
    simp only [Recorder.step, notes]
    split
    next line hk =>
      split_ifs with hroom
      · exact ⟨push hroom (.line line), hb.tallied.move hk zero rfl rfl, unanswered rfl⟩
      · exact ⟨queued.pass rfl rfl, hb.tallied.move hk zero rfl rfl, unanswered rfl⟩
    next => exact same
  | count k =>
    simp only [Recorder.step, notes]
    split
    next hk => exact ⟨queued.pass rfl rfl, hb.tallied.move hk rfl rfl rfl, unanswered rfl⟩
    next => exact same
  | flush done =>
    simp only [Recorder.step, notes]
    split_ifs with hroom
    · exact ⟨push hroom (.flush done), hb.tallied.pass rfl rfl rfl, unanswered rfl⟩
    · exact same
  | work ending =>
    simp only [Recorder.step, notes]
    split
    next line queue hqueue =>
      rw [hqueue] at queued
      refine ⟨queued.take rfl rfl, hb.tallied.pass rfl rfl rfl, ?_⟩
      rw [handled_append, List.filterMap_append, ← hb.answered]
      exact (List.append_nil _).symm
    next done queue hqueue =>
      rw [hqueue] at queued
      refine ⟨queued.take rfl rfl, hb.tallied.pass rfl rfl rfl, ?_⟩
      rw [handled_append, List.filterMap_append, ← hb.answered]
      rfl
    next => exact same
  | hangUp =>
    simp only [Recorder.step, notes, List.append_nil]
    exact ⟨queued.hangUp, hb.tallied, hb.answered⟩

/-- What a flush waits for: all that was accepted before it has been handled. -/
theorem Booked.barrier (hb : s.Booked h) {done : Nat} (hdone : done ∈ s.answered) :
    ∃ before after, accepted h = before ++ .flush done :: after ∧ before <+: handled h := by
  rw [hb.answered, List.mem_filterMap] at hdone
  obtain ⟨p, hp, hflushed⟩ := hdone
  have hflush : p = .flush done := by
    cases p with
    | line line => cases hflushed
    | flush other => rw [Option.some.inj hflushed]
  obtain ⟨before, after, hsplit⟩ := List.append_of_mem (hflush ▸ hp)
  obtain ⟨rest, hrest⟩ := hb.queued.order
  refine ⟨before, after ++ s.queue ++ rest, ?_, ?_⟩
  · rw [← hrest, hsplit]
    simp
  · rw [hsplit]
    exact List.prefix_append _ _

/-- In every interleaving of callers, flushes and the worker, and whatever files can be written, the
books balance, and an answered flush has all that was accepted before it behind it. -/
theorem events_accounted (session : String) (processId : UInt32) (callers : Nat)
    (files : Nat → List UInt8) (acts : List Act) :
    let process := Process.initialized session processId
    let s := run (step process) (start callers files) acts
    let h := eventsOf (step process) notes (start callers files) acts
    s.Booked h ∧ ∀ done ∈ s.answered,
      ∃ before after, accepted h = before ++ .flush done :: after ∧ before <+: handled h := by
  intro process s h
  have hb : s.Booked h :=
    run_history Booked (fun _ _ a hb => hb.step a) acts (booked_start callers files)
  exact ⟨hb, fun done => hb.barrier⟩

end Recorder

end Channel

end AdbControl.Diagnostics
