import AdbControl.Framework.BigEndian
import AdbControl.Framework.Outcome
import AdbControl.Framework.Run
import AdbControl.Error

namespace AdbControl.Server.Scrcpy

open Framework

def maxScrcpyPacketSize : Nat := 16 * 1024 * 1024

/-- What a reader of a connection fails with. -/
inductive ReadError
  | eof
  | unexpectedEof
  | app (error : AppError)
  deriving DecidableEq, Repr

/-- `io.ReadFull` on a connection of which these bytes are still to come. -/
def readExactly (size : Nat) (connection : List UInt8) :
    Except ReadError (List UInt8) × List UInt8 :=
  if connection.length < size then
    (.error (if connection = [] then .eof else .unexpectedEof), [])
  else (.ok (connection.take size), connection.drop size)

/-- `metadata[:8]` as one word -/
def headerFlags (metadata : List UInt8) : UInt64 := .ofNat (ofBigEndian (metadata.take 8))

/-- `metadata[4:8]` -/
def headerWidth (metadata : List UInt8) : Nat := ofBigEndian ((metadata.drop 4).take 4)

/-- `metadata[8:12]`, which is the height in a session packet and the size of any other one -/
def headerSize (metadata : List UInt8) : Nat := ofBigEndian ((metadata.drop 8).take 4)

/-- The sizes that the handshake accepts. -/
def ValidSize (width height : Nat) : Prop :=
  1 ≤ width ∧ width ≤ 65535 ∧ 1 ≤ height ∧ height ≤ 65535

instance (width height : Nat) : Decidable (ValidSize width height) :=
  inferInstanceAs (Decidable (_ ∧ _))

/-- The first twelve bytes of a packet that announces a new size. -/
def isSession (metadata : List UInt8) : Bool := decide (headerFlags metadata &&& (1 : UInt64) <<< 63 ≠ 0)

def sizeAllowed (size : Nat) : Bool := decide (1 ≤ size ∧ size ≤ maxScrcpyPacketSize)

/-- `quote` is the `%q` of the message. -/
def readScrcpyHandshake (quote : List UInt8 → String) (connection : List UInt8) :
    Except AppError (Nat × Nat × List UInt8) :=
  match readExactly 4 connection with
  | (.error _, _) =>
    .error ⟨"SCRCPY_HANDSHAKE_INVALID", "投屏编码握手不完整", "device.screen", true, none⟩
  | (.ok codec, rest) =>
    if codec ≠ [104, 50, 54, 52] then
      .error ⟨"SCRCPY_CODEC_UNSUPPORTED", "投屏返回了不支持的编码 " ++ quote codec, "device.screen",
        false, none⟩
    else match readExactly 12 rest with
      | (.error _, _) =>
        .error ⟨"SCRCPY_METADATA_INVALID", "投屏尺寸元数据不完整", "device.screen", true, none⟩
      | (.ok metadata, rest) =>
        if metadata.headD 0 &&& 0x80 = 0 then
          .error ⟨"SCRCPY_METADATA_INVALID", "投屏缺少初始尺寸元数据", "device.screen", true, none⟩
        else
          let width := headerWidth metadata
          let height := headerSize metadata
          if width < 1 ∨ height < 1 ∨ width > 65535 ∨ height > 65535 then
            .error ⟨"SCRCPY_FRAME_SIZE_INVALID", "投屏返回了无效的画面尺寸", "device.screen", true,
              none⟩
          else .ok (width, height, rest)

/-- `%x` -/
def hexText (bytes : List UInt8) : String :=
  String.ofList (bytes.flatMap fun b =>
    [(b.toNat / 16).digitChar, (b.toNat % 16).digitChar])

def readScrcpyAudioHandshake (connection : List UInt8) : Except AppError (Bool × List UInt8) :=
  match readExactly 4 connection with
  | (.error _, _) =>
    .error ⟨"SCRCPY_AUDIO_HANDSHAKE_INVALID", "投屏音频握手不完整", "device.screen.audio", true, none⟩
  | (.ok codec, rest) =>
    if codec = [0, 0, 0, 0] then .ok (false, rest)
    else if codec ≠ [0, 114, 97, 119] then
      .error ⟨"SCRCPY_AUDIO_CODEC_UNSUPPORTED", "投屏返回了不支持的音频编码 " ++ hexText codec,
        "device.screen.audio", false, none⟩
    else .ok (true, rest)

/-- What the readers of a `ScrcpySession` use of it: its two streams, from where they stand on, and
the size. -/
structure Session where
  video : List UInt8
  audio : List UInt8
  width : Nat
  height : Nat
  audioAvailable : Bool
  deriving DecidableEq, Repr

/-- The end of `StartScrcpy`, when the connections stand. -/
def startSession (quote : List UInt8 → String) (video audio : List UInt8) :
    Except AppError Session := do
  let (width, height, video) ← readScrcpyHandshake quote video
  let (audioAvailable, audio) ← readScrcpyAudioHandshake audio
  pure ⟨video, audio, width, height, audioAvailable⟩

structure ScrcpyVideoPacket where
  /-- empty for Go's nil: what is read as data has a byte at least -/
  data : List UInt8 := []
  presentationTimeUS : UInt64 := 0
  config : Bool := false
  keyFrame : Bool := false
  deriving DecidableEq, Repr

/-- `Size` -/
def Session.size (s : Session) : Nat × Nat := (s.width, s.height)

def isConfig (flags : UInt64) : Bool := decide (flags &&& (1 : UInt64) <<< 62 ≠ 0)

def isKeyFrame (flags : UInt64) : Bool := decide (flags &&& (1 : UInt64) <<< 61 ≠ 0)

/-- A configuration has no time of its own. -/
def packetTime (flags : UInt64) : UInt64 :=
  if isConfig flags then 0 else flags &&& ((1 : UInt64) <<< 61 - 1)

def Session.readPacket (s : Session) : Except ReadError ScrcpyVideoPacket × Session :=
  match readExactly 12 s.video with
  | (.error e, rest) => (.error e, { s with video := rest })
  | (.ok metadata, rest) =>
    let flags := headerFlags metadata
    if isSession metadata then
      (.ok {}, { s with video := rest, width := headerWidth metadata, height := headerSize metadata })
    else if sizeAllowed (headerSize metadata) = false then
      (.error (.app ⟨"SCRCPY_PACKET_INVALID", "投屏视频包大小无效", "device.screen", true, none⟩),
        { s with video := rest })
    else match readExactly (headerSize metadata) rest with
      | (.error e, rest) => (.error e, { s with video := rest })
      | (.ok packet, rest) =>
        (.ok ⟨packet, packetTime flags, isConfig flags, isKeyFrame flags⟩, { s with video := rest })

def Session.readAudioPacket (s : Session) : Except ReadError ScrcpyVideoPacket × Session :=
  if s.audioAvailable = false then (.error .eof, s)
  else match readExactly 12 s.audio with
  | (.error e, rest) => (.error e, { s with audio := rest })
  | (.ok metadata, rest) =>
    let flags := headerFlags metadata
    if sizeAllowed (headerSize metadata) = false then
      (.error (.app ⟨"SCRCPY_AUDIO_PACKET_INVALID", "投屏音频包大小无效", "device.screen.audio", true,
        none⟩), { s with audio := rest })
    else match readExactly (headerSize metadata) rest with
      | (.error e, rest) => (.error e, { s with audio := rest })
      | (.ok packet, rest) =>
        (.ok ⟨packet, packetTime flags, isConfig flags, false⟩, { s with audio := rest })

/-- The calls of the two goroutines that read a session. -/
inductive Read
  | video
  | audio
  deriving DecidableEq, Repr

def step (s : Session) : Read → Session
  | .video => s.readPacket.2
  | .audio => s.readAudioPacket.2

/-- How much of the stream follows the twelve bytes of a packet. -/
def payloadSize (metadata : List UInt8) : Nat :=
  if isSession metadata = true ∨ sizeAllowed (headerSize metadata) = false then 0
  else headerSize metadata

/-- The bytes of one packet, as the reader divides its stream. -/
def IsPacket (packet : List UInt8) : Prop :=
  12 ≤ packet.length ∧ packet.length = 12 + payloadSize (packet.take 12)

/-- Wherever a packet of the stream announces a size, it is one that the handshake accepts. -/
def SessionsValid (stream : List UInt8) : Prop :=
  ∀ (packets : List (List UInt8)) (metadata rest : List UInt8),
    stream = packets.flatten ++ (metadata ++ rest) → (∀ packet ∈ packets, IsPacket packet) →
    metadata.length = 12 → isSession metadata = true →
    ValidSize (headerWidth metadata) (headerSize metadata)

section Reading

variable {connection rest metadata payload : List UInt8} {size : Nat} {s : Session}

theorem readExactly_append {bytes : List UInt8} (h : bytes.length = size) :
    readExactly size (bytes ++ rest) = (.ok bytes, rest) := by
  rw [readExactly, if_neg (by simp only [List.length_append]; omega), ← h, List.take_left,
    List.drop_left]

theorem readExactly_short (h : connection.length < size) :
    ∃ e, readExactly size connection = (.error e, []) :=
  ⟨_, if_pos h⟩

theorem readExactly_ok {bytes : List UInt8}
    (h : readExactly size connection = (.ok bytes, rest)) :
    connection = bytes ++ rest ∧ bytes.length = size := by
  unfold readExactly at h
  by_cases hshort : connection.length < size
  · rw [if_pos hshort] at h
    cases h
  · rw [if_neg hshort] at h
    obtain ⟨hbytes, hrest⟩ := Prod.mk.inj h
    rw [← Except.ok.inj hbytes, ← hrest]
    exact ⟨(List.take_append_drop size connection).symm, List.length_take_of_le (by omega)⟩

/-- One word has a bit of another exactly when the two have something in common. -/
theorem and_bit_ne_zero (flags : UInt64) {bit : UInt64} {i : Nat} (h : bit.toNat = 2^i) :
    flags &&& bit ≠ 0 ↔ flags.toNat.testBit i = true := by
  rw [Ne, ← UInt64.toNat_inj, UInt64.toNat_and, h, Nat.and_two_pow]
  cases flags.toNat.testBit i <;> simp

theorem headerFlags_toNat (hlength : metadata.length = 12) :
    (headerFlags metadata).toNat = ofBigEndian (metadata.take 8) := by
  have hlt := ofBigEndian_lt (metadata.take 8)
  rw [List.length_take_of_le (by omega)] at hlt
  rw [headerFlags, UInt64.toNat_ofNat', Nat.mod_eq_of_lt (by simpa using hlt)]

theorem isSession_eq (metadata : List UInt8) :
    isSession metadata = (headerFlags metadata).toNat.testBit 63 := by
  rw [isSession, Bool.eq_iff_iff, decide_eq_true_eq]
  exact and_bit_ne_zero _ rfl

theorem isConfig_eq (flags : UInt64) : isConfig flags = flags.toNat.testBit 62 := by
  rw [isConfig, Bool.eq_iff_iff, decide_eq_true_eq]
  exact and_bit_ne_zero flags rfl

theorem isKeyFrame_eq (flags : UInt64) : isKeyFrame flags = flags.toNat.testBit 61 := by
  rw [isKeyFrame, Bool.eq_iff_iff, decide_eq_true_eq]
  exact and_bit_ne_zero flags rfl

theorem packetTime_toNat (flags : UInt64) :
    (packetTime flags).toNat = if flags.toNat.testBit 62 then 0 else flags.toNat % 2^61 := by
  rw [packetTime, isConfig_eq]
  split_ifs
  · rfl
  · rw [UInt64.toNat_and]
    exact Nat.and_two_pow_sub_one_eq_mod flags.toNat 61

/-- A packet that stands first in the stream is the one that is read. -/
theorem readPacket_of_packet {packet : List UInt8} (hpacket : IsPacket packet)
    (hstream : s.video = packet ++ rest) :
    s.readPacket.2 =
      if isSession (packet.take 12) then
        { s with
          video := rest
          width := headerWidth (packet.take 12)
          height := headerSize (packet.take 12) }
      else { s with video := rest } := by
  obtain ⟨hlong, hlength⟩ := hpacket
  have hmetadata : (packet.take 12).length = 12 := List.length_take_of_le hlong
  have hsplit := (List.take_append_drop 12 packet).symm
  have hpayload : (packet.drop 12).length = payloadSize (packet.take 12) := by
    rw [List.length_drop]
    omega
  generalize packet.take 12 = metadata at *
  generalize packet.drop 12 = payload at *
  have hread : readExactly 12 s.video = (.ok metadata, payload ++ rest) := by
    rw [hstream, hsplit, List.append_assoc]
    exact readExactly_append hmetadata
  simp only [Session.readPacket, hread]
  by_cases hsession : isSession metadata = true
  · rw [payloadSize, if_pos (Or.inl hsession), List.length_eq_zero_iff] at hpayload
    rw [if_pos hsession, if_pos hsession, hpayload, List.nil_append]
  · rw [if_neg hsession, if_neg hsession]
    by_cases hallowed : sizeAllowed (headerSize metadata) = false
    · rw [payloadSize, if_pos (Or.inr hallowed), List.length_eq_zero_iff] at hpayload
      rw [if_pos hallowed, hpayload, List.nil_append]
    · rw [payloadSize, if_neg (by tauto)] at hpayload
      rw [if_neg hallowed, readExactly_append hpayload]

/-- Without a packet that stands first in it, the stream ends. -/
theorem readPacket_cases (s : Session) :
    (∃ packet rest, s.video = packet ++ rest ∧ IsPacket packet) ∨
      s.readPacket.2 = { s with video := [] } := by
  by_cases hshort : s.video.length < 12
  · obtain ⟨e, he⟩ := readExactly_short hshort
    refine Or.inr ?_
    simp only [Session.readPacket, he]
  have hmetadata : (s.video.take 12).length = 12 := List.length_take_of_le (by omega)
  have hstream := (List.take_append_drop 12 s.video).symm
  generalize s.video.take 12 = metadata at hmetadata hstream
  generalize s.video.drop 12 = rest at hstream
  by_cases hpayload : rest.length < payloadSize metadata
  · have hread : readExactly 12 s.video = (.ok metadata, rest) := by
      rw [hstream]
      exact readExactly_append hmetadata
    have hmedia : ¬(isSession metadata = true ∨ sizeAllowed (headerSize metadata) = false) := by
      intro hnone
      rw [payloadSize, if_pos hnone] at hpayload
      omega
    rw [payloadSize, if_neg hmedia] at hpayload
    rw [not_or] at hmedia
    obtain ⟨e, he⟩ := readExactly_short hpayload
    refine Or.inr ?_
    simp only [Session.readPacket, hread, if_neg hmedia.1, if_neg hmedia.2, he]
  · refine Or.inl ⟨metadata ++ rest.take (payloadSize metadata), rest.drop (payloadSize metadata),
      ?_, ?_, ?_⟩
    · rw [List.append_assoc, List.take_append_drop, hstream]
    · rw [List.length_append]
      omega
    · rw [List.take_left' hmetadata, List.length_append, hmetadata,
        List.length_take_of_le (by omega)]

/-- The audio is read from another stream. -/
theorem readAudioPacket_same (s : Session) :
    s.readAudioPacket.2.video = s.video ∧ s.readAudioPacket.2.width = s.width ∧
      s.readAudioPacket.2.height = s.height := by
  unfold Session.readAudioPacket
  by_cases havailable : s.audioAvailable = false
  · rw [if_pos havailable]
    exact ⟨rfl, rfl, rfl⟩
  · rw [if_neg havailable]
    rcases readExactly 12 s.audio with ⟨e | metadata, rest⟩
    · exact ⟨rfl, rfl, rfl⟩
    · simp only
      split_ifs
      · exact ⟨rfl, rfl, rfl⟩
      · rcases readExactly (headerSize metadata) rest with ⟨e | packet, rest⟩ <;>
          exact ⟨rfl, rfl, rfl⟩

theorem sessionsValid_nil : SessionsValid [] := by
  intro packets metadata rest hstream _ hlength
  have h := congrArg List.length hstream
  simp only [List.length_nil, List.length_append] at h
  omega

/-- What is valid in a stream is valid in what follows its first packet. -/
theorem SessionsValid.tail {packet : List UInt8} (h : SessionsValid (packet ++ rest))
    (hpacket : IsPacket packet) : SessionsValid rest := by
  intro packets metadata rest' hstream hpackets hlength hsession
  refine h (packet :: packets) metadata rest' ?_ ?_ hlength hsession
  · rw [hstream, List.flatten_cons, List.append_assoc]
  · exact List.forall_mem_cons.mpr ⟨hpacket, hpackets⟩

theorem startSession_ok {quote : List UInt8 → String} {video audio : List UInt8}
    (h : startSession quote video audio = .ok s) :
    ValidSize s.width s.height ∧ s.video = video.drop 16 := by
  obtain ⟨⟨width, height, stream⟩, handshake, h⟩ := bind_eq_ok.mp h
  obtain ⟨⟨available, sound⟩, -, h⟩ := bind_eq_ok.mp h
  cases h
  show ValidSize width height ∧ stream = video.drop 16
  unfold readScrcpyHandshake at handshake
  by_cases hcodec : video.length < 4
  · rw [readExactly, if_pos hcodec] at handshake
    cases handshake
  rw [readExactly, if_neg hcodec] at handshake
  simp only at handshake
  split_ifs at handshake with hkind
  by_cases hmetadata : (video.drop 4).length < 12
  · rw [readExactly, if_pos hmetadata] at handshake
    cases handshake
  rw [readExactly, if_neg hmetadata] at handshake
  simp only at handshake
  split_ifs at handshake with hinitial hsize
  cases handshake
  rw [ValidSize, List.drop_drop]
  exact ⟨by omega, rfl⟩

/-- As many readings of video as there are packets take them off the stream. -/
theorem run_readPacket {packets : List (List UInt8)} (hpackets : ∀ packet ∈ packets, IsPacket packet)
    (hstream : s.video = packets.flatten ++ rest) :
    (run step s (packets.map fun _ => Read.video)).video = rest := by
  induction packets generalizing s with
  | nil => simpa using hstream
  | cons packet packets ih =>
    obtain ⟨hpacket, hpackets⟩ := List.forall_mem_cons.mp hpackets
    rw [List.flatten_cons, List.append_assoc] at hstream
    refine ih hpackets ?_
    rw [step, readPacket_of_packet hpacket hstream]
    split_ifs <;> rfl

/-- A reading keeps the size valid, and the sizes that are still to come. -/
theorem step_valid (hsize : ValidSize s.width s.height) (hvalid : SessionsValid s.video)
    (read : Read) :
    ValidSize (step s read).width (step s read).height ∧ SessionsValid (step s read).video := by
  cases read with
  | audio =>
    obtain ⟨hvideo, hwidth, hheight⟩ := readAudioPacket_same s
    rw [step, hvideo, hwidth, hheight]
    exact ⟨hsize, hvalid⟩
  | video =>
    rcases readPacket_cases s with ⟨packet, rest, hstream, hpacket⟩ | hend
    · rw [hstream] at hvalid
      rw [step, readPacket_of_packet hpacket hstream]
      split_ifs with hsession
      · have hsplit := List.take_append_drop 12 packet
        have hlength : (packet.take 12).length = 12 := List.length_take_of_le hpacket.1
        refine ⟨hvalid [] (packet.take 12) (packet.drop 12 ++ rest) ?_ nofun hlength hsession,
          hvalid.tail hpacket⟩
        rw [List.flatten_nil, List.nil_append, ← List.append_assoc, hsplit]
      · exact ⟨hsize, hvalid.tail hpacket⟩
    · rw [step, hend]
      exact ⟨hsize, sessionsValid_nil⟩

end Reading

/-- In every run of readings the size stays one that the handshake accepts, exactly when the stream
announces no other. -/
theorem frame_size_valid_iff {quote : List UInt8 → String} {video audio : List UInt8} {s : Session}
    (h : startSession quote video audio = .ok s) :
    (∀ reads : List Read, ValidSize (run step s reads).size.1 (run step s reads).size.2) ↔
      SessionsValid (video.drop 16) := by
  obtain ⟨hsize, hvideo⟩ := startSession_ok h
  rw [← hvideo]
  constructor
  · intro hruns packets metadata rest hstream hpackets hlength hsession
    have before := run_readPacket hpackets hstream
    have now := hruns (packets.map (fun _ => Read.video) ++ [.video])
    have hpacket : IsPacket metadata := by
      rw [IsPacket, List.take_of_length_le (by omega), payloadSize, if_pos (Or.inl hsession)]
      omega
    rw [run_snoc, step, readPacket_of_packet hpacket before, List.take_of_length_le (by omega),
      if_pos hsession] at now
    exact now
  · intro hvalid reads
    have kept := run_invariant_of_step
      (fun s : Session => ValidSize s.width s.height ∧ SessionsValid s.video)
      (fun s read hs => step_valid hs.1 hs.2 read) reads ⟨hsize, hvalid⟩
    exact kept.1

/-- A video of 1280 by 720, whose next packet announces a size of zero by zero. -/
def vanishingVideo : List UInt8 :=
  [104, 50, 54, 52] ++ [128, 0, 0, 0, 0, 0, 5, 0, 0, 0, 2, 208] ++
    [128, 0, 0, 0, 0, 0, 0, 0, 0, 0, 0, 0]

def vanishingSession : Session := ⟨vanishingVideo.drop 16, [], 1280, 720, false⟩

theorem vanishing_starts :
    startSession (fun _ => "") vanishingVideo [0, 0, 0, 0] = .ok vanishingSession := rfl

theorem frame_size_valid_iff_vanishing : ¬SessionsValid (vanishingVideo.drop 16) := by
  intro hvalid
  have kept := (frame_size_valid_iff vanishing_starts).mpr hvalid [.video]
  revert kept
  decide

theorem frame_size_vanishes : ¬∀ (quote : List UInt8 → String) (video audio : List UInt8)
    (s : Session), startSession quote video audio = .ok s →
    ∀ reads : List Read, ValidSize (run step s reads).size.1 (run step s reads).size.2 := by
  intro h
  have kept := h (fun _ => "") vanishingVideo [0, 0, 0, 0] vanishingSession vanishing_starts [.video]
  revert kept
  decide

end AdbControl.Server.Scrcpy
