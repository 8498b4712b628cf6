import AdbControl.Companion.NativeVideo
import AdbControl.Framework.Run

namespace AdbControl.Companion.NativeVideo

open Framework

/-- The frames that the stream has accepted, in order -/
def taken (j : Nat) (h : List Note) : List VideoPacket :=
  h.filterMap fun e =>
    match e with
    | .accepted stream _ packet => if stream = j then some packet else none
    | .refused _ _ => none

namespace Stream

variable {s : Stream} {as : List VideoPacket}

/-- What a stream has accepted is on the wire, with its task, or in the queue, in this order. -/
structure Keeps (s : Stream) (as : List VideoPacket) : Prop where
  room : s.queue.length ≤ videoQueueCapacity
  order :
    match s.writer with
    | .opening => s.wire = [] ∧ as = s.queue
    | .waiting => ∃ done, s.wire = s.metadata.header ++ done.flatMap VideoPacket.wire ∧ as = done ++ s.queue
    | .writing packet => ∃ done, s.wire = s.metadata.header ++ done.flatMap VideoPacket.wire ∧
        as = done ++ packet :: s.queue
    | .finished => s.wire = s.metadata.header ++ as.flatMap VideoPacket.wire
    | .failed => s.wire <+: s.metadata.header ++ as.flatMap VideoPacket.wire

theorem keeps_start (sessionId : String) (metadata : MetadataJson) :
    Keeps ⟨sessionId, metadata, [], .opening, []⟩ [] := ⟨Nat.zero_le _, rfl, rfl⟩

theorem Keeps.push (h : s.Keeps as) (ha : s.accepts = true) (packet : VideoPacket) :
    (s.push packet).Keeps (as ++ [packet]) := by
  obtain ⟨hreceives, hroom⟩ := Bool.and_eq_true_iff.mp ha
  have horder := h.order
  obtain ⟨sessionId, metadata, queue, writer, wire⟩ := s
  refine ⟨?_, ?_⟩
  · rw [Stream.push, List.length_append]
    exact of_decide_eq_true hroom
  · cases writer with
    | opening => exact ⟨horder.1, congrArg (· ++ [packet]) horder.2⟩
    | waiting =>
      obtain ⟨done, hwire, rfl⟩ := horder
      exact ⟨done, hwire, List.append_assoc ..⟩
    | writing current =>
      obtain ⟨done, hwire, rfl⟩ := horder
      exact ⟨done, hwire, by simp [Stream.push]⟩
    | finished => cases hreceives
    | failed => cases hreceives

theorem Keeps.take (h : s.Keeps as) (alive : Bool) : (s.take alive).Keeps as := by
  obtain ⟨sessionId, metadata, queue, writer, wire⟩ := s
  cases writer with
  | opening => exact h
  | writing packet => exact h
  | finished => exact h
  | failed => exact h
  | waiting =>
    cases queue with
    | cons packet queue => exact ⟨(Nat.le_succ _).trans h.room, h.order⟩
    | nil =>
      cases alive with
      | true => exact h
      | false =>
        obtain ⟨done, hwire, rfl⟩ := h.order
        refine ⟨Nat.zero_le _, ?_⟩
        show wire = _ ++ (done ++ []).flatMap VideoPacket.wire
        rw [List.append_nil]
        exact hwire

theorem Keeps.write (h : s.Keeps as) (cut : Option Nat) : (s.write cut).Keeps as := by
  have horder := h.order
  obtain ⟨sessionId, metadata, queue, writer, wire⟩ := s
  cases writer with
  | waiting => cases cut <;> exact h
  | finished => cases cut <;> exact h
  | failed => cases cut <;> exact h
  | opening =>
    obtain ⟨rfl, rfl⟩ := horder
    cases cut with
    | none => exact ⟨h.room, [], by simp [Stream.write, pending], rfl⟩
    | some n =>
      refine ⟨Nat.zero_le _, ?_⟩
      exact (List.take_prefix n metadata.header).trans (List.prefix_append _ _)
  | writing packet =>
    obtain ⟨done, hwire, rfl⟩ := horder
    obtain rfl : wire = metadata.header ++ done.flatMap VideoPacket.wire := hwire
    cases cut with
    | none =>
      refine ⟨h.room, done ++ [packet], ?_, by simp [Stream.write]⟩
      simp [Stream.write, pending, List.flatMap_append]
    | some n =>
      refine ⟨Nat.zero_le _, ?_⟩
      show metadata.header ++ done.flatMap VideoPacket.wire ++ packet.wire.take n <+:
        metadata.header ++ (done ++ packet :: queue).flatMap VideoPacket.wire
      rw [List.flatMap_append, ← List.append_assoc, List.prefix_append_right_inj, List.flatMap_cons]
      exact (List.take_prefix n packet.wire).trans (List.prefix_append _ _)

/-- What is on the wire begins what was accepted. -/
theorem Keeps.wire_begins (h : s.Keeps as) : s.wire <+: s.metadata.header ++ as.flatMap VideoPacket.wire := by
  have horder := h.order
  obtain ⟨sessionId, metadata, queue, writer, wire⟩ := s
  cases writer with
  | opening =>
    obtain ⟨rfl, -⟩ := horder
    exact List.nil_prefix
  | waiting =>
    obtain ⟨done, hwire, rfl⟩ := horder
    rw [List.flatMap_append, ← List.append_assoc, hwire]
    exact List.prefix_append _ _
  | writing packet =>
    obtain ⟨done, hwire, rfl⟩ := horder
    rw [List.flatMap_append, ← List.append_assoc, hwire]
    exact List.prefix_append _ _
  | finished =>
    rw [horder]
  | failed => exact horder

theorem Keeps.abort (h : s.Keeps as) : s.abort.Keeps as := by
  rw [Stream.abort]
  split_ifs
  · exact ⟨Nat.zero_le _, h.wire_begins⟩
  · exact h

end Stream

namespace Client

variable {read : MetadataJson → Option VideoStreamMetadata} {s : Client} {h : List Note}

theorem taken_append (j : Nat) (h more : List Note) : taken j (h ++ more) = taken j h ++ taken j more :=
  List.filterMap_append ..

/-- The streams keep what they accepted, and frames go to streams of their session only. -/
structure Kept (s : Client) (h : List Note) : Prop where
  streams : ∀ (j : Nat) (stream : Stream), s.streams[j]? = some stream → stream.Keeps (taken j h)
  senders : ∀ sessionId j, s.senders[sessionId]? = some j →
    (s.streams[j]?).map Stream.sessionId = some sessionId
  callers : ∀ (k : Nat) (offer : Offer), s.callers[k]? = some (some offer) →
    (s.streams[offer.stream]?).map Stream.sessionId = some offer.sessionId
  accepted : ∀ j sessionId packet, Note.accepted j sessionId packet ∈ h →
    (s.streams[j]?).map Stream.sessionId = some sessionId

theorem kept_start (callers : Nat) : Kept (start callers) [] where
  streams j stream hj := by simp [start] at hj
  senders sessionId j hj := by simp [start] at hj
  callers k offer hk := by
    have hnone : some offer = none := List.eq_of_mem_replicate (List.mem_of_getElem? hk)
    cases hnone
  accepted _ _ _ hmem := absurd hmem List.not_mem_nil

/-- A stream of no index has accepted nothing. -/
theorem Kept.taken_nil (hs : Kept s h) {j : Nat} (hj : s.streams[j]? = none) : taken j h = [] := by
  refine List.filterMap_eq_nil_iff.mpr ?_
  intro e he
  cases e with
  | refused sessionId packet => rfl
  | accepted stream sessionId packet =>
    refine if_neg ?_
    rintro rfl
    have hsome := hs.accepted stream sessionId packet he
    rw [hj] at hsome
    cases hsome

/-- One stream moves on its own. -/
theorem Kept.modify (hs : Kept s h) (i : Nat) (f : Stream → Stream)
    (hid : ∀ stream, (f stream).sessionId = stream.sessionId)
    (hkeeps : ∀ stream as, stream.Keeps as → (f stream).Keeps as) :
    Kept { s with streams := s.streams.modify i f } h := by
  have hids (j : Nat) : ((s.streams.modify i f)[j]?).map Stream.sessionId =
      (s.streams[j]?).map Stream.sessionId := by
    rw [List.getElem?_modify, Option.map_eq_map, Option.map_map]
    refine congrArg (Option.map · _) (funext fun stream => ?_)
    show (if i = j then f stream else stream).sessionId = stream.sessionId
    split_ifs
    · exact hid stream
    · rfl
  refine ⟨?_, ?_, ?_, ?_⟩
  · intro j stream hj
    rw [List.getElem?_modify] at hj
    obtain ⟨old, hold, rfl⟩ := Option.map_eq_some_iff.mp hj
    split_ifs
    · exact hkeeps old _ (hs.streams j old hold)
    · exact hs.streams j old hold
  · intro sessionId j hj
    rw [hids]
    exact hs.senders sessionId j hj
  · intro k offer hk
    rw [hids]
    exact hs.callers k offer hk
  · intro j sessionId packet hmem
    rw [hids]
    exact hs.accepted j sessionId packet hmem

theorem Kept.refused (hs : Kept s h) (sessionId : String) (packet : VideoPacket) :
    Kept s (h ++ [.refused sessionId packet]) where
  streams j stream hj := by
    rw [taken_append]
    exact (List.append_nil (taken j h)).symm ▸ hs.streams j stream hj
  senders := hs.senders
  callers := hs.callers
  accepted j sessionId' packet' hmem := by
    rcases List.mem_append.mp hmem with hmem | hmem
    · exact hs.accepted j sessionId' packet' hmem
    · cases List.mem_singleton.mp hmem

theorem Kept.same (hs : Kept s h) : Kept s (h ++ []) := by
  rwa [List.append_nil]

/-- The queue of a stream takes a frame that was sent to its session. -/
theorem Kept.push (hs : Kept s h) {j : Nat} {stream : Stream} (hj : s.streams[j]? = some stream)
    (haccepts : stream.accepts = true) (packet : VideoPacket) :
    Kept { s with streams := s.streams.set j (stream.push packet) }
      (h ++ [.accepted j stream.sessionId packet]) := by
  have hids (i : Nat) : ((s.streams.set j (stream.push packet))[i]?).map Stream.sessionId =
      (s.streams[i]?).map Stream.sessionId := by
    rw [getElem?_set_of_moves hj]
    split_ifs with hij
    · rw [← hij, hj]
      rfl
    · rfl
  refine ⟨?_, ?_, ?_, ?_⟩
  · intro i other hi
    rw [taken_append]
    rcases getElem?_moved hi with ⟨rfl, rfl⟩ | ⟨hne, hi⟩
    · rw [show taken i [.accepted i stream.sessionId packet] = [packet] by simp [taken]]
      exact (hs.streams i stream hj).push haccepts packet
    · rw [show taken i [.accepted j stream.sessionId packet] = [] by simp [taken, Ne.symm hne],
        List.append_nil]
      exact hs.streams i other hi
  · intro sessionId i hi
    rw [hids]
    exact hs.senders sessionId i hi
  · intro k offer hk
    rw [hids]
    exact hs.callers k offer hk
  · intro i sessionId packet' hmem
    rw [hids]
    rcases List.mem_append.mp hmem with hmem | hmem
    · exact hs.accepted i sessionId packet' hmem
    · cases List.mem_singleton.mp hmem
      rw [hj]
      rfl

/-- A stream more -/
theorem Kept.start (hs : Kept s h) (sessionId : String) (metadata : MetadataJson) :
    Kept { s with
      senders := s.senders.insert sessionId s.streams.length
      streams := s.streams ++ [⟨sessionId, metadata, [], .opening, []⟩] } h := by
  have hids {j : Nat} {name : String} (hj : (s.streams[j]?).map Stream.sessionId = some name) :
      ((s.streams ++ [⟨sessionId, metadata, [], .opening, []⟩])[j]?).map Stream.sessionId = some name := by
    obtain ⟨stream, hstream, -⟩ := Option.map_eq_some_iff.mp hj
    rwa [List.getElem?_append_left (List.getElem?_eq_some_iff.mp hstream).1]
  refine ⟨?_, ?_, ?_, ?_⟩
  · intro j stream hj
    rcases Nat.lt_or_ge j s.streams.length with hlt | hge
    · rw [List.getElem?_append_left hlt] at hj
      exact hs.streams j stream hj
    · rw [List.getElem?_append_right hge] at hj
      rw [List.getElem?_singleton] at hj
      split_ifs at hj
      obtain rfl := Option.some.inj hj
      rw [hs.taken_nil (List.getElem?_eq_none hge)]
      exact Stream.keeps_start sessionId metadata
  · intro name j hj
    rcases Keyed.lookup_insert_cases hj with ⟨rfl, rfl⟩ | ⟨-, hj⟩
    · show ((s.streams ++ [_])[s.streams.length]?).map Stream.sessionId = _
      rw [List.getElem?_concat_length]
      rfl
    · exact hids (hs.senders name j hj)
  · intro k offer hk
    exact hids (hs.callers k offer hk)
  · intro j name packet hmem
    exact hids (hs.accepted j name packet hmem)

/-- A caller gets another place. -/
theorem Kept.caller (hs : Kept s h) (k : Nat) (place : Option Offer)
    (hplace : ∀ offer, place = some offer →
      (s.streams[offer.stream]?).map Stream.sessionId = some offer.sessionId) :
    Kept { s with callers := s.callers.set k place } h where
  streams := hs.streams
  senders := hs.senders
  callers j offer hj := by
    rcases getElem?_moved hj with ⟨rfl, hoffer⟩ | ⟨-, hj⟩
    · exact hplace offer hoffer.symm
    · exact hs.callers j offer hj
  accepted := hs.accepted

theorem Kept.step (hs : Kept s h) (a : Act) : Kept (step read s a) (h ++ notes s a) := by
  cases a with
  | start metadata =>
    simp only [Client.step, notes, List.append_nil]
    split
    next parsed hread =>
      split_ifs
      · exact hs.start parsed.sessionId metadata
      · exact hs
    next => exact hs
  | look k sessionId packet =>
    simp only [Client.step, notes]
    split
    next j hk hj =>
      simp only [hk, hj, List.append_nil]
      refine hs.caller k _ ?_
      rintro offer ⟨⟩
      exact hs.senders sessionId j hj
    next =>
      split
      · exact hs.refused sessionId packet
      · exact hs.same
  | offer k =>
    simp only [Client.step, notes]
    split
    next offer hk =>
      obtain ⟨stream, hstream, hid⟩ := Option.map_eq_some_iff.mp (hs.callers k offer hk)
      simp only [hstream, Option.any_some]
      split_ifs with haccepts
      · rw [← hid]
        exact (hs.push hstream haccepts offer.packet).caller k none (fun _ h => by cases h)
      · exact (hs.caller k none (fun _ h => by cases h)).refused offer.sessionId offer.packet
    next => exact hs.same
  | stop sessionId =>
    rw [show notes s (.stop sessionId) = [] from rfl, List.append_nil]
    refine ⟨hs.streams, ?_, hs.callers, hs.accepted⟩
    intro name j hj
    simp only [Client.step, Keyed.lookup_erase] at hj
    split_ifs at hj
    exact hs.senders name j hj
  | take j =>
    rw [show notes s (.take j) = [] from rfl, List.append_nil]
    refine hs.modify j _ ?_ fun _ _ hk => hk.take _
    intro stream
    simp only [Stream.take]
    split
    · rfl
    · split_ifs <;> rfl
    · rfl
  | write j cut =>
    rw [show notes s (.write j cut) = [] from rfl, List.append_nil]
    refine hs.modify j _ ?_ fun _ _ hk => hk.write _
    intro stream
    simp only [Stream.write]
    split <;> rfl
  | abort j =>
    rw [show notes s (.abort j) = [] from rfl, List.append_nil]
    refine hs.modify j _ ?_ fun _ _ hk => hk.abort
    intro stream
    simp only [Stream.abort]
    split_ifs <;> rfl
  | drop =>
    rw [show notes s .drop = [] from rfl, List.append_nil]
    refine ⟨hs.streams, ?_, hs.callers, hs.accepted⟩
    intro name j hj
    simp [Client.step] at hj

/-- What the streams of a client have done with the frames that they accepted -/
structure Delivers (s : Client) (h : List Note) : Prop where
  /-- Each frame once, in order, and nothing else -/
  ordered : ∀ (j : Nat) (stream : Stream), s.streams[j]? = some stream →
    stream.wire <+: stream.metadata.header ++ (taken j h).flatMap VideoPacket.wire
  complete : ∀ (j : Nat) (stream : Stream), s.streams[j]? = some stream → stream.writer = .finished →
    stream.wire = stream.metadata.header ++ (taken j h).flatMap VideoPacket.wire
  /-- At most five frames wait, as long as the stream has not failed. -/
  prompt : ∀ (j : Nat) (stream : Stream), s.streams[j]? = some stream → stream.writer.receives = true →
    ∃ done held, taken j h = done ++ held ∧ held.length ≤ videoQueueCapacity + 1 ∧
      (stream.wire = stream.metadata.header ++ done.flatMap VideoPacket.wire ∨ stream.wire = [] ∧ done = [])
  /-- There is one way to read the wire. -/
  readable : ∀ (j : Nat) (stream : Stream), s.streams[j]? = some stream → stream.writer = .finished →
    ∀ (metadata : MetadataJson) (packets : List VideoPacket),
      stream.wire = metadata.header ++ packets.flatMap VideoPacket.wire →
        metadata.text = stream.metadata.text ∧ packets = taken j h
  routed : ∀ j sessionId packet, Note.accepted j sessionId packet ∈ h →
    (s.streams[j]?).map Stream.sessionId = some sessionId

theorem Kept.delivers (hs : Kept s h) : Delivers s h where
  ordered j stream hj := (hs.streams j stream hj).wire_begins
  complete j stream hj hfinished := by
    have horder := (hs.streams j stream hj).order
    rwa [hfinished] at horder
  prompt j stream hj hreceives := by
    have horder := (hs.streams j stream hj).order
    have hroom := (hs.streams j stream hj).room
    cases hwriter : stream.writer with
    | opening =>
      rw [hwriter] at horder
      exact ⟨[], stream.queue, horder.2, Nat.le_succ_of_le hroom, .inr ⟨horder.1, rfl⟩⟩
    | waiting =>
      rw [hwriter] at horder
      obtain ⟨done, hwire, htaken⟩ := horder
      exact ⟨done, stream.queue, htaken, Nat.le_succ_of_le hroom, .inl hwire⟩
    | writing packet =>
      rw [hwriter] at horder
      obtain ⟨done, hwire, htaken⟩ := horder
      exact ⟨done, packet :: stream.queue, htaken, Nat.succ_le_succ hroom, .inl hwire⟩
    | finished =>
      rw [hwriter] at hreceives
      cases hreceives
    | failed =>
      rw [hwriter] at hreceives
      cases hreceives
  readable j stream hj hfinished metadata packets hwire := by
    have horder := (hs.streams j stream hj).order
    rw [hfinished] at horder
    exact wire_injective (hwire.symm.trans horder)
  routed := hs.accepted

/-- In every run, with callers that start, send and stop as they like and a connection that may fail at any
byte, the streams deliver what they accept. -/
theorem video_streams_deliver (read : MetadataJson → Option VideoStreamMetadata) (callers : Nat)
    (acts : List Act) :
    Delivers (run (step read) (start callers) acts) (eventsOf (step read) notes (start callers) acts) := by
  have hkept := run_history (fun (s : Client) h => Kept s h) (fun s h a hs => @Kept.step read s h hs a) acts
    (kept_start callers)
  exact hkept.delivers

end Client

end AdbControl.Companion.NativeVideo
