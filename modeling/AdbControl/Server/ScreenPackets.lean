import AdbControl.Server.ScrcpyStream

namespace AdbControl.Server

open Framework Scrcpy

/-- `encodeScreenPacket` -/
def encodeScreenPacket (protocol : Nat) (kind : UInt8) (presentationTimeUS : UInt64)
    (payload : List UInt8) : List UInt8 :=
  [kind] ++ (if protocol ≥ 2 then bigEndian 8 presentationTimeUS.toNat else []) ++ payload

/-- The kind that the loop over the video gives a packet. -/
def videoKind (packet : ScrcpyVideoPacket) : UInt8 :=
  if packet.config then 1 else if packet.keyFrame then 2 else 0

/-- What the loop over the video writes for a packet; one without data is passed over. -/
def videoMessage (protocol : Nat) (packet : ScrcpyVideoPacket) : Option (List UInt8) :=
  if packet.data = [] then none
  else some (encodeScreenPacket protocol (videoKind packet) packet.presentationTimeUS packet.data)

def audioKind (packet : ScrcpyVideoPacket) : UInt8 := if packet.config then 3 else 4

/-- What the goroutine of the audio writes. -/
def audioMessage (protocol : Nat) (packet : ScrcpyVideoPacket) : List UInt8 :=
  encodeScreenPacket protocol (audioKind packet) packet.presentationTimeUS packet.data

def screenStreamProtocol (requested : String) : Nat :=
  if requested = "3" then 3 else if requested = "2" then 2 else 1

end AdbControl.Server

namespace AdbControl.Web

open Framework

structure ScreenPacket where
  kind : Nat
  presentationTimeUs : Option Nat
  data : List UInt8
  deriving DecidableEq, Repr

def maxSafeInteger : Nat := 2^53 - 1

def readUint64 (bytes : List UInt8) (offset : Nat) : Except String Nat :=
  let value := ofBigEndian ((bytes.drop offset).take 8)
  if value > maxSafeInteger then .error "投屏时间戳超出安全范围" else .ok value

def parseScreenPacket (bytes : List UInt8) (protocol : Nat) : Except String ScreenPacket :=
  let headerSize := if protocol ≥ 2 then 9 else 1
  if bytes.length < headerSize then .error "投屏视频包头不完整"
  else do
    let presentationTimeUs ← if protocol ≥ 2 then (readUint64 bytes 1).map some else .ok none
    pure ⟨(bytes.headD 0).toNat, presentationTimeUs, bytes.drop headerSize⟩

end AdbControl.Web

namespace AdbControl.Server

open Framework Scrcpy Web

/-- What the browser has of a packet: the time is left out of the first protocol, and one that a
number of the browser does not hold is refused. -/
def delivered (protocol kind presentationTime : Nat) (data : List UInt8) :
    Except String ScreenPacket :=
  if protocol < 2 then .ok ⟨kind, none, data⟩
  else if presentationTime ≤ 2^53 - 1 then .ok ⟨kind, some presentationTime, data⟩
  else .error "投屏时间戳超出安全范围"

/-- The time in the first word of a header -/
def frameTime (word : Nat) : Nat := if word.testBit 62 then 0 else word % 2^61

/-- The kinds of video tell configurations, key frames and other frames apart. -/
def TellsVideo (word kind : Nat) : Prop :=
  (kind = 1 ↔ word.testBit 62 = true) ∧
  (kind = 2 ↔ word.testBit 62 = false ∧ word.testBit 61 = true) ∧
  (kind = 0 ↔ word.testBit 62 = false ∧ word.testBit 61 = false)

/-- And those of audio configurations from frames, and both from video. -/
def TellsAudio (word kind : Nat) : Prop :=
  (kind = 3 ↔ word.testBit 62 = true) ∧ (kind = 4 ↔ word.testBit 62 = false)

/-- The first packet of a video stream comes to the browser by the message, or there is none for a
packet that announces a size. -/
def VideoTransported (protocol : Nat) (stream : List UInt8) (message : Option (List UInt8)) : Prop :=
  ∃ metadata payload rest, stream = metadata ++ (payload ++ rest) ∧ metadata.length = 12 ∧
    let word := ofBigEndian (metadata.take 8)
    if word.testBit 63 then message = none
    else payload.length = headerSize metadata ∧ ∃ bytes kind, message = some bytes ∧
      TellsVideo word kind ∧
      parseScreenPacket bytes protocol = delivered protocol kind (frameTime word) payload

def AudioTransported (protocol : Nat) (stream message : List UInt8) : Prop :=
  ∃ metadata payload rest, stream = metadata ++ (payload ++ rest) ∧ metadata.length = 12 ∧
    payload.length = headerSize metadata ∧
    let word := ofBigEndian (metadata.take 8)
    ∃ kind, TellsAudio word kind ∧
      parseScreenPacket message protocol = delivered protocol kind (frameTime word) payload

section

variable {s : Scrcpy.Session} {packet : ScrcpyVideoPacket} {metadata payload rest : List UInt8}

/-- What is encoded is read back, up to the time that the browser refuses. -/
theorem parseScreenPacket_encodeScreenPacket (protocol : Nat) (kind : UInt8) (time : UInt64)
    (payload : List UInt8) :
    parseScreenPacket (encodeScreenPacket protocol kind time payload) protocol =
      delivered protocol kind.toNat time.toNat payload := by
  by_cases hprotocol : protocol < 2
  · simp [parseScreenPacket, encodeScreenPacket, delivered, hprotocol, Nat.not_le.mpr hprotocol,
      pure, Except.pure, bind, Except.bind]
  · have htime : ofBigEndian (bigEndian 8 time.toNat) = time.toNat :=
      ofBigEndian_bigEndian_of_lt time.toNat_lt
    have hfield : (bigEndian 8 time.toNat ++ payload).take 8 = bigEndian 8 time.toNat :=
      List.take_left' (bigEndian_length 8 _)
    have hdata : (bigEndian 8 time.toNat ++ payload).drop 8 = payload :=
      List.drop_left' (bigEndian_length 8 _)
    have message : encodeScreenPacket protocol kind time payload =
        kind :: (bigEndian 8 time.toNat ++ payload) := by
      simp [encodeScreenPacket, Nat.not_lt.mp hprotocol]
    have hlength : ¬(kind :: (bigEndian 8 time.toNat ++ payload)).length < 9 := by
      simp
    rw [message, parseScreenPacket, delivered, if_neg hprotocol]
    simp only [ge_iff_le, Nat.not_lt.mp hprotocol, if_true, if_neg hlength, readUint64,
      List.drop_succ_cons, List.drop_zero, hfield, hdata, htime, maxSafeInteger, List.headD_cons]
    by_cases hsafe : time.toNat ≤ 2^53 - 1
    · rw [if_neg (Nat.not_lt.mpr hsafe), if_pos hsafe]
      rfl
    · rw [if_pos (Nat.not_le.mp hsafe), if_neg hsafe]
      rfl

/-- A packet that a reading of video gives: the size alone was announced, or the header and its
payload stood in the stream. -/
theorem readPacket_ok (h : s.readPacket.1 = .ok packet) :
    ∃ metadata payload rest, s.video = metadata ++ (payload ++ rest) ∧ metadata.length = 12 ∧
      (isSession metadata = true ∧ packet = {} ∨
        isSession metadata = false ∧ payload.length = headerSize metadata ∧ payload ≠ [] ∧
          packet = ⟨payload, packetTime (headerFlags metadata), isConfig (headerFlags metadata),
            isKeyFrame (headerFlags metadata)⟩) := by
  unfold Scrcpy.Session.readPacket at h
  rcases hread : readExactly 12 s.video with ⟨e | metadata, rest⟩
  · rw [hread] at h
    cases h
  obtain ⟨hstream, hlength⟩ := readExactly_ok hread
  simp only [hread] at h
  by_cases hsession : isSession metadata = true
  · rw [if_pos hsession] at h
    exact ⟨metadata, [], rest, hstream, hlength, Or.inl ⟨hsession, (Except.ok.inj h).symm⟩⟩
  rw [if_neg hsession] at h
  by_cases hallowed : sizeAllowed (headerSize metadata) = false
  · rw [if_pos hallowed] at h
    cases h
  rw [if_neg hallowed] at h
  rcases hpayload : readExactly (headerSize metadata) rest with ⟨e | payload, rest'⟩
  · rw [hpayload] at h
    cases h
  obtain ⟨hrest, hsize⟩ := readExactly_ok hpayload
  rw [hpayload] at h
  refine ⟨metadata, payload, rest', by rw [hstream, hrest], hlength, Or.inr
    ⟨Bool.eq_false_of_not_eq_true hsession, hsize, ?_, (Except.ok.inj h).symm⟩⟩
  rintro rfl
  simp only [sizeAllowed, ← hsize] at hallowed
  exact hallowed rfl

theorem readAudioPacket_ok (h : s.readAudioPacket.1 = .ok packet) :
    ∃ metadata payload rest, s.audio = metadata ++ (payload ++ rest) ∧ metadata.length = 12 ∧
      payload.length = headerSize metadata ∧
      packet = ⟨payload, packetTime (headerFlags metadata), isConfig (headerFlags metadata), false⟩ := by
  unfold Scrcpy.Session.readAudioPacket at h
  by_cases havailable : s.audioAvailable = false
  · rw [if_pos havailable] at h
    cases h
  rw [if_neg havailable] at h
  rcases hread : readExactly 12 s.audio with ⟨e | metadata, rest⟩
  · rw [hread] at h
    cases h
  obtain ⟨hstream, hlength⟩ := readExactly_ok hread
  simp only [hread] at h
  by_cases hallowed : sizeAllowed (headerSize metadata) = false
  · rw [if_pos hallowed] at h
    cases h
  rw [if_neg hallowed] at h
  rcases hpayload : readExactly (headerSize metadata) rest with ⟨e | payload, rest'⟩
  · rw [hpayload] at h
    cases h
  obtain ⟨hrest, hsize⟩ := readExactly_ok hpayload
  rw [hpayload] at h
  exact ⟨metadata, payload, rest', by rw [hstream, hrest], hlength, hsize,
    (Except.ok.inj h).symm⟩

theorem tellsVideo_kind (word : Nat) :
    TellsVideo word
      (if word.testBit 62 then 1 else if word.testBit 61 then 2 else 0 : UInt8).toNat := by
  unfold TellsVideo
  cases word.testBit 62 <;> cases word.testBit 61 <;> simp

theorem tellsAudio_kind (word : Nat) :
    TellsAudio word (if word.testBit 62 then 3 else 4 : UInt8).toNat := by
  unfold TellsAudio
  cases word.testBit 62 <;> simp

theorem packetTime_header (hlength : metadata.length = 12) :
    (packetTime (headerFlags metadata)).toNat = frameTime (ofBigEndian (metadata.take 8)) := by
  rw [packetTime_toNat, headerFlags_toNat hlength, frameTime]

end

/-- What is encoded is parsed again, with its time in the later protocols unless the time is above
what a number of the browser holds; and so comes each packet that is read of the video or the audio,
whose kind tells the flags of its header apart. -/
theorem screen_packets_transported (protocol : Nat) :
    (∀ (kind : UInt8) (time : UInt64) (payload : List UInt8),
      parseScreenPacket (encodeScreenPacket protocol kind time payload) protocol =
        delivered protocol kind.toNat time.toNat payload) ∧
    (∀ (s : Scrcpy.Session) (packet : ScrcpyVideoPacket), s.readPacket.1 = .ok packet →
      VideoTransported protocol s.video (videoMessage protocol packet)) ∧
    ∀ (s : Scrcpy.Session) (packet : ScrcpyVideoPacket), s.readAudioPacket.1 = .ok packet →
      AudioTransported protocol s.audio (audioMessage protocol packet) := by
  refine ⟨parseScreenPacket_encodeScreenPacket protocol, ?_, ?_⟩
  · intro s packet h
    obtain ⟨metadata, payload, rest, hstream, hlength, hpacket⟩ := readPacket_ok h
    refine ⟨metadata, payload, rest, hstream, hlength, ?_⟩
    have hword := headerFlags_toNat hlength
    rcases hpacket with ⟨hsession, hpacket⟩ | ⟨hmedia, hsize, hpayload, hpacket⟩
    · rw [isSession_eq, hword] at hsession
      simp only [if_pos hsession, hpacket]
      rfl
    · rw [isSession_eq, hword] at hmedia
      have message : videoMessage protocol packet = some (encodeScreenPacket protocol
          (videoKind packet) packet.presentationTimeUS packet.data) := by
        rw [videoMessage, if_neg (by rwa [hpacket])]
      simp only [hmedia]
      refine ⟨hsize, _, (videoKind packet).toNat, message, ?_, ?_⟩
      · rw [videoKind, hpacket, isConfig_eq, isKeyFrame_eq, hword]
        exact tellsVideo_kind _
      · rw [parseScreenPacket_encodeScreenPacket, hpacket, packetTime_header hlength]
  · intro s packet h
    obtain ⟨metadata, payload, rest, hstream, hlength, hsize, hpacket⟩ := readAudioPacket_ok h
    refine ⟨metadata, payload, rest, hstream, hlength, hsize, (audioKind packet).toNat, ?_, ?_⟩
    · rw [audioKind, hpacket, isConfig_eq, headerFlags_toNat hlength]
      exact tellsAudio_kind _
    · rw [audioMessage, parseScreenPacket_encodeScreenPacket, hpacket, packetTime_header hlength]

/-- A key frame of three bytes, as it comes from the device. -/
def keyFrameSession : Scrcpy.Session where
  video := [32, 0, 0, 0, 0, 18, 214, 135, 0, 0, 0, 3, 1, 2, 3]
  audio := []
  width := 1280
  height := 720
  audioAvailable := false

theorem screen_packets_transported_key :
    VideoTransported 2 keyFrameSession.video
      (some [2, 0, 0, 0, 0, 0, 18, 214, 135, 1, 2, 3]) := by
  have read : keyFrameSession.readPacket.1 = .ok ⟨[1, 2, 3], 1234567, false, true⟩ := by
    decide
  have message : videoMessage 2 ⟨[1, 2, 3], 1234567, false, true⟩ =
      some [2, 0, 0, 0, 0, 0, 18, 214, 135, 1, 2, 3] := by
    decide
  have transported := (screen_packets_transported 2).2.1 _ _ read
  rwa [message] at transported

end AdbControl.Server
