import AdbControl.Framework.BigEndian
import AdbControl.Framework.Keyed
import AdbControl.Framework.PrefixCode
import AdbControl.Framework.Text
import AdbControl.Framework.Threads

namespace AdbControl.Companion.NativeVideo

open Framework

section Wire

def wireMagic : List UInt8 := [0x41, 0x43, 0x51, 0x31]

def streamVideo : UInt8 := 2

def videoQueueCapacity : Nat := 4

structure VideoStreamMetadata where
  sessionId : String
  codec : String
  width : Nat
  height : Nat
  bitrate : Nat
  frameRate : Nat
  deriving DecidableEq, Repr

def VideoStreamMetadata.valid (metadata : VideoStreamMetadata) : Bool :=
  metadata.sessionId ≠ "" && metadata.codec = "h264" && metadata.width ≠ 0 && metadata.height ≠ 0 &&
    metadata.bitrate ≠ 0 && metadata.frameRate ≠ 0

/-- The metadata as they come from the service; `write_u32` holds their length. -/
structure MetadataJson where
  text : String
  short : (utf8Bytes text).length < 2^32

/-- A frame as it comes from the encoder; an array of the JVM is shorter than `2^31`. -/
structure VideoPacket where
  presentationTimeUs : Int64
  flags : UInt32
  data : List UInt8
  short : data.length < 2^31

def MetadataJson.header (metadata : MetadataJson) : List UInt8 :=
  wireMagic ++ [streamVideo] ++ bigEndian 4 (utf8Bytes metadata.text).length ++ utf8Bytes metadata.text

def VideoPacket.wire (packet : VideoPacket) : List UInt8 :=
  bigEndian 8 packet.presentationTimeUs.toUInt64.toNat ++ bigEndian 4 packet.flags.toNat ++
    bigEndian 4 packet.data.length ++ packet.data

theorem bigEndian_injective {w m n : Nat} (hm : m < 256^w) (hn : n < 256^w)
    (h : bigEndian w m = bigEndian w n) : m = n := by
  rw [← ofBigEndian_bigEndian_of_lt hm, h, ofBigEndian_bigEndian_of_lt hn]

theorem length_parts {w : Nat} {data data' xs ys : List UInt8} (hdata : data.length < 256^w)
    (hdata' : data'.length < 256^w)
    (h : bigEndian w data.length ++ (data ++ xs) = bigEndian w data'.length ++ (data' ++ ys)) :
    data = data' ∧ xs = ys := by
  obtain ⟨hlength, hrest⟩ := List.append_inj h (by rw [bigEndian_length, bigEndian_length])
  exact List.append_inj hrest (bigEndian_injective hdata hdata' hlength)

theorem prefixCode_wire : PrefixCode VideoPacket.wire := by
  constructor
  · intro packet h
    have hlength : (VideoPacket.wire packet).length = 0 := congrArg List.length h
    simp only [VideoPacket.wire, List.length_append, bigEndian_length] at hlength
    omega
  · intro p q xs ys h
    simp only [VideoPacket.wire, List.append_assoc] at h
    obtain ⟨htime, h⟩ := List.append_inj h (by rw [bigEndian_length, bigEndian_length])
    obtain ⟨hflags, h⟩ := List.append_inj h (by rw [bigEndian_length, bigEndian_length])
    obtain ⟨hdata, hrest⟩ := length_parts (p.short.trans (by decide)) (q.short.trans (by decide)) h
    have htime : p.presentationTimeUs = q.presentationTimeUs := by
      have hword := bigEndian_injective p.presentationTimeUs.toUInt64.toNat_lt
        q.presentationTimeUs.toUInt64.toNat_lt htime
      have hsame := congrArg UInt64.toInt64 (UInt64.toNat_inj.mp hword)
      rwa [Int64.toInt64_toUInt64, Int64.toInt64_toUInt64] at hsame
    have hflags : p.flags = q.flags :=
      UInt32.toNat_inj.mp (bigEndian_injective p.flags.toNat_lt q.flags.toNat_lt hflags)
    refine ⟨?_, hrest⟩
    cases p
    cases q
    cases htime
    cases hflags
    cases hdata
    rfl

/-- What is on the wire tells the metadata and the frames. -/
theorem wire_injective {m m' : MetadataJson} {ps qs : List VideoPacket}
    (h : m.header ++ ps.flatMap VideoPacket.wire = m'.header ++ qs.flatMap VideoPacket.wire) :
    m.text = m'.text ∧ ps = qs := by
  simp only [MetadataJson.header, List.append_assoc] at h
  have h := List.append_cancel_left (List.append_cancel_left h)
  obtain ⟨htext, hframes⟩ := length_parts (m.short.trans_le (by decide)) (m'.short.trans_le (by decide)) h
  refine ⟨?_, prefixCode_wire.injective hframes⟩
  have hread := congrArg fromUtf8 htext
  rw [fromUtf8_utf8Bytes, fromUtf8_utf8Bytes] at hread
  exact Option.some.inj hread

end Wire

section System

/-- Where the task of a stream is; `writing` has taken a frame from the queue. -/
inductive Writer
  | opening
  | waiting
  | writing (packet : VideoPacket)
  | finished
  | failed

structure Stream where
  sessionId : String
  metadata : MetadataJson
  queue : List VideoPacket
  writer : Writer
  wire : List UInt8

/-- A caller of `send_video_frame` that has the sender of a stream and has not offered its frame yet. -/
structure Offer where
  sessionId : String
  stream : Nat
  packet : VideoPacket

structure Client where
  senders : Keyed String Nat
  streams : List Stream
  callers : List (Option Offer)

inductive Act
  | start (metadata : MetadataJson)
  | look (k : Nat) (sessionId : String) (packet : VideoPacket)
  | offer (k : Nat)
  | stop (sessionId : String)
  | take (j : Nat)
  /-- The task of the stream writes, in full or up to a byte where the connection fails. -/
  | write (j : Nat) (cut : Option Nat)
  /-- The runtime ends the task. -/
  | abort (j : Nat)
  | drop

inductive Note
  | accepted (stream : Nat) (sessionId : String) (packet : VideoPacket)
  | refused (sessionId : String) (packet : VideoPacket)

def Writer.receives : Writer → Bool
  | finished | failed => false
  | _ => true

namespace Stream

/-- `try_send`: there is a receiver and room in the queue. -/
def accepts (s : Stream) : Bool := s.writer.receives && decide (s.queue.length < videoQueueCapacity)

def push (s : Stream) (packet : VideoPacket) : Stream := { s with queue := s.queue ++ [packet] }

/-- `receiver.recv`, where `alive` tells whether the stream still has a sender. -/
def take (s : Stream) (alive : Bool) : Stream :=
  match s.writer, s.queue with
  | .waiting, packet :: queue => { s with queue := queue, writer := .writing packet }
  | .waiting, [] => if alive then s else { s with writer := .finished }
  | _, _ => s

/-- What the task writes next -/
def pending (s : Stream) : List UInt8 :=
  match s.writer with
  | .opening => s.metadata.header
  | .writing packet => packet.wire
  | _ => []

def write (s : Stream) (cut : Option Nat) : Stream :=
  match s.writer, cut with
  | .opening, none | .writing _, none => { s with wire := s.wire ++ s.pending, writer := .waiting }
  | .opening, some n | .writing _, some n =>
    { s with wire := s.wire ++ s.pending.take n, writer := .failed, queue := [] }
  | _, _ => s

def abort (s : Stream) : Stream :=
  if s.writer.receives then { s with writer := .failed, queue := [] } else s

end Stream

namespace Client

def start (callers : Nat) : Client := ⟨∅, [], List.replicate callers none⟩

variable (read : MetadataJson → Option VideoStreamMetadata)

/-- The map or a caller holds a sender of the stream. -/
def alive (s : Client) (j : Nat) : Bool :=
  decide (j ∈ s.senders.values) || s.callers.any fun offer => offer.any fun offer => offer.stream = j

def step (s : Client) : Act → Client
  | .start metadata =>
    match read metadata with
    | some parsed =>
      if parsed.valid then
        { s with
          senders := s.senders.insert parsed.sessionId s.streams.length
          streams := s.streams ++ [⟨parsed.sessionId, metadata, [], .opening, []⟩] }
      else s
    | none => s
  | .look k sessionId packet =>
    match s.callers[k]?, s.senders[sessionId]? with
    | some none, some j => { s with callers := s.callers.set k (some ⟨sessionId, j, packet⟩) }
    | _, _ => s
  | .offer k =>
    match s.callers[k]? with
    | some (some offer) =>
      let left := { s with callers := s.callers.set k none }
      match s.streams[offer.stream]? with
      | some stream =>
        if stream.accepts then
          { left with streams := s.streams.set offer.stream (stream.push offer.packet) }
        else left
      | none => left
    | _ => s
  | .stop sessionId => { s with senders := s.senders.erase sessionId }
  | .take j => { s with streams := s.streams.modify j fun stream => stream.take (s.alive j) }
  | .write j cut => { s with streams := s.streams.modify j fun stream => stream.write cut }
  | .abort j => { s with streams := s.streams.modify j Stream.abort }
  | .drop => { s with senders := ∅ }

def notes (s : Client) : Act → List Note
  | .look k sessionId packet =>
    match s.callers[k]?, s.senders[sessionId]? with
    | some none, none => [.refused sessionId packet]
    | _, _ => []
  | .offer k =>
    match s.callers[k]? with
    | some (some offer) =>
      if (s.streams[offer.stream]?).any Stream.accepts then
        [.accepted offer.stream offer.sessionId offer.packet]
      else [.refused offer.sessionId offer.packet]
    | _ => []
  | _ => []

end Client

end System

end AdbControl.Companion.NativeVideo
