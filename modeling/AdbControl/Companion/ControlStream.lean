import AdbControl.Framework.Frames
import AdbControl.Companion.LiveRegistry

namespace AdbControl.Companion

open Framework

/-- `ACQ1`, and the byte of a control stream. -/
def wirePreface : List UInt8 := [0x41, 0x43, 0x51, 0x31, 1]

def maxControlMessageBytes : Nat := 4 * 1024 * 1024

/-- Why `handle_control_stream` stops reading: the stream has ended between two frames, a frame
was refused, or the stream failed. -/
inductive StreamEnd
  | closed
  | refused (e : AppError)
  | failed (e : AppError)
  deriving DecidableEq

def quinnError (errorCode message : String) (recoverable : Bool) : AppError :=
  ⟨errorCode, message, "companion.quinn", recoverable, none⟩

/-- What surrounds one control stream: how serde reads an envelope, and the shared transport and
the outgoing channel as they are when the next frame is decoded, which other connections have a
part in. -/
structure ControlPeer where
  connectionId : UInt64
  outgoing : Nat
  decode : List UInt8 → Option QuicEnvelope
  live : List (List UInt8) → LiveState
  writerGone : List (List UInt8) → Bool

/-- The loop's variable, and the frames decoded so far. -/
structure ControlState where
  deviceId : Option String
  frames : List (List UInt8)

def ControlPeer.acceptFrame (peer : ControlPeer) (frames : List (List UInt8))
    (bytes : List UInt8) : Except AppError (Option String) :=
  match peer.decode bytes with
  | none => .error (quinnError "COMPANION_QUIC_ENVELOPE_INVALID"
      "Companion QUIC control frame is not a valid envelope." false)
  | some envelope => ((peer.live frames).acceptEnvelope peer.connectionId peer.outgoing
      (peer.writerGone frames) envelope).result

def ControlPeer.onFrame (peer : ControlPeer) (s : ControlState) (bytes : List UInt8) :
    ControlState × Option StreamEnd :=
  match peer.acceptFrame s.frames bytes with
  | .error e => (⟨s.deviceId, s.frames ++ [bytes]⟩, some (.refused e))
  | .ok accepted => (⟨accepted.or s.deviceId, s.frames ++ [bytes]⟩, none)

/-- `handle_control_stream` between two polls: the bytes read of the preface, and of the frame
that the current `read_control_frame` future is reading. -/
structure ControlReader where
  preface : List UInt8
  scan : Scan ControlState StreamEnd

/-- Bytes are taken from the stream, the heartbeat timer fires, or the phone ends the stream.
`writerGone` says that the writer task has ended, and the heartbeat cannot be sent. -/
inductive StreamEvent
  | arrive (bytes : List UInt8)
  | tick (writerGone : Bool)
  | finish
  deriving DecidableEq

namespace ControlReader

def start : ControlReader := ⟨[], ⟨[], ⟨none, []⟩, none⟩⟩

def ended (r : ControlReader) (e : StreamEnd) : ControlReader :=
  { r with scan := { r.scan with stop := some e } }

def frameLengthInvalid : StreamEnd :=
  .failed (quinnError "COMPANION_QUIC_FRAME_LENGTH_INVALID"
    "Companion QUIC control frame length is outside the allowed range." false)

def takeByte (peer : ControlPeer) (r : ControlReader) (b : UInt8) : ControlReader :=
  match r.scan.stop with
  | some _ => r
  | none =>
    if r.preface.length < wirePreface.length then
      let r := { r with preface := r.preface ++ [b] }
      if r.preface.length = wirePreface.length ∧ r.preface ≠ wirePreface then
        r.ended (.failed (quinnError "COMPANION_QUIC_PREFACE_INVALID"
          "Companion QUIC control stream preface is invalid." false))
      else r
    else { r with scan := r.scan.feed maxControlMessageBytes frameLengthInvalid peer.onFrame b }

/-- A tick wins the race only while a device is known; the read future that loses is dropped, and
with it the bytes that it had taken. -/
def step (peer : ControlPeer) (r : ControlReader) : StreamEvent → ControlReader
  | .arrive bytes => bytes.foldl (takeByte peer) r
  | .tick writerGone =>
    if r.scan.stop.isSome ∨ r.scan.state.deviceId.isNone then r
    else
      let r := { r with scan := { r.scan with taken := [] } }
      if writerGone then
        r.ended (.failed (quinnError "COMPANION_QUIC_CONTROL_CLOSED"
          "Companion QUIC control stream closed before heartbeat delivery." true))
      else r
  | .finish =>
    if r.scan.stop.isSome then r
    else if r.preface.length < wirePreface.length then
      r.ended (.failed (quinnError "COMPANION_QUIC_PREFACE_READ_FAILED"
        "Core could not read the Companion QUIC stream preface." true))
    else if r.scan.taken.length < 4 then r.ended .closed
    else r.ended (.failed (quinnError "COMPANION_QUIC_FRAME_READ_FAILED"
      "Core failed to read a complete Companion QUIC control frame." true))

/-- A heartbeat fires only between two frames. -/
def Clean (r : ControlReader) : StreamEvent → Prop
  | .tick _ => r.scan.stop = none → r.scan.state.deviceId.isSome = true → r.scan.taken = []
  | _ => True

instance (r : ControlReader) : (event : StreamEvent) → Decidable (Clean r event)
  | .tick _ => inferInstanceAs (Decidable (r.scan.stop = none →
      r.scan.state.deviceId.isSome = true → r.scan.taken = []))
  | .arrive _ => instDecidableTrue
  | .finish => instDecidableTrue

end ControlReader

/-- The bytes that arrive. -/
def arrived : List StreamEvent → List UInt8
  | [] => []
  | .arrive bytes :: events => bytes ++ arrived events
  | _ :: events => arrived events

/-- The phone does not end the stream, and the writer task lives. -/
def StreamEvent.keepsOpen : StreamEvent → Bool
  | arrive _ => true
  | tick writerGone => !writerGone
  | finish => false

/-- The phone's writer task: an over-long message is skipped. -/
def phoneWriter : List (List UInt8) → List UInt8
  | [] => []
  | message :: queue =>
    if maxControlMessageBytes < message.length then phoneWriter queue
    else be32 message.length ++ message ++ phoneWriter queue

def writeControlFrame (bytes : List UInt8) : Except AppError (List UInt8) :=
  if bytes.isEmpty ∨ maxControlMessageBytes < bytes.length then
    .error (quinnError "COMPANION_QUIC_FRAME_LENGTH_INVALID"
      "Core refused to write an invalid Companion QUIC frame length." false)
  else .ok (be32 bytes.length ++ bytes)

/-- Core's writer task: what it writes of the queue, and the error that ends it. -/
def controlWriter : List (List UInt8) → List UInt8 × Option AppError
  | [] => ([], none)
  | bytes :: queue =>
    match writeControlFrame bytes with
    | .error e => ([], some e)
    | .ok wire => (wire ++ (controlWriter queue).1, (controlWriter queue).2)

def phoneOnFrame (messages : List String) (bytes : List UInt8) : List String × Option Unit :=
  match fromUtf8 bytes with
  | some message => (messages ++ [message], none)
  | none => (messages, none)

/-- The messages that the phone's reader task passes on. -/
def phoneReads (wire : List UInt8) : List String :=
  (wire.foldl (Scan.feed maxControlMessageBytes () phoneOnFrame) ⟨[], [], none⟩).state

end AdbControl.Companion
