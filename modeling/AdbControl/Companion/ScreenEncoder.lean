import AdbControl.Framework.Run

namespace AdbControl.Companion

open Framework

/-- An output of the codec, as `sendVideoFrame` takes it. -/
structure VideoPacket where
  presentationTimeUs : Int
  flags : UInt32
  data : List UInt8
  deriving DecidableEq

def bufferFlagKeyFrame : UInt32 := 1
def bufferFlagCodecConfig : UInt32 := 2

def VideoPacket.keyframe (packet : VideoPacket) : Bool := packet.flags &&& bufferFlagKeyFrame != 0

/-- What the video queue has taken, and from which function. -/
inductive QueuedFrame
  | codecSpecificData (frame : VideoPacket)
  | packet (frame : VideoPacket)
  deriving DecidableEq

def QueuedFrame.packet? : QueuedFrame → Option VideoPacket
  | packet frame => some frame
  | codecSpecificData _ => none

/-- What `drainOutput` works on in a session of the screen encoder -/
structure EncoderDrain where
  awaitingRecoveryKeyframe : Bool := false
  outputFormatSent : Bool := false
  sentFrameCount : Nat := 0
  droppedFrameCount : Nat := 0
  /-- the sync frames that the codec was asked for -/
  syncRequests : Nat := 0
  /-- what the video queue has taken, the first first -/
  queue : List QueuedFrame := []

/-- What `drainOutput` finds in a round, with the answers of the video queue to what it sends then. -/
inductive DrainStep
  | tryAgainLater
  | formatChanged (csd : List (List UInt8 × Bool))
  | output (packet : VideoPacket) (queued : Bool)

namespace EncoderDrain

def sendCodecSpecificData (s : EncoderDrain) (csd : List (List UInt8 × Bool)) :
    EncoderDrain :=
  { s with
    queue := s.queue ++ (csd.filter (fun config => config.1 ≠ [] ∧ config.2 = true)).map
      fun config => .codecSpecificData ⟨0, bufferFlagCodecConfig, config.1⟩ }

def sendPacket (s : EncoderDrain) (packet : VideoPacket) (queued : Bool) :
    EncoderDrain :=
  if s.awaitingRecoveryKeyframe = true ∧ packet.keyframe = false then s
  else if queued then
    { s with
      awaitingRecoveryKeyframe := s.awaitingRecoveryKeyframe && !packet.keyframe
      sentFrameCount := s.sentFrameCount + 1
      queue := s.queue ++ [.packet packet] }
  else
    { s with
      droppedFrameCount := s.droppedFrameCount + 1
      awaitingRecoveryKeyframe := true
      syncRequests := s.syncRequests + 1 }

/-- A round of `drainOutput` -/
def step (s : EncoderDrain) : DrainStep → EncoderDrain
  | .tryAgainLater => s
  | .formatChanged csd =>
    if s.outputFormatSent then s
    else sendCodecSpecificData { s with outputFormatSent := true } csd
  | .output packet queued => if packet.data = [] then s else s.sendPacket packet queued

/-- The packets that `sendPacket` has got queued, in the order of the queue -/
def sent (s : EncoderDrain) : List VideoPacket := s.queue.filterMap QueuedFrame.packet?

/-- `sendPacket` hands the packet to the queue. -/
def Offers (s : EncoderDrain) (packet : VideoPacket) : Prop :=
  packet.data ≠ [] ∧ (s.awaitingRecoveryKeyframe = true → packet.keyframe = true)

/-- The packets that the codec has output since its last key frame, from that one on; none before
the first key frame. -/
def sinceKeyframe (since : Option (List VideoPacket)) : DrainStep → Option (List VideoPacket)
  | .output packet _ =>
    if packet.data = [] then since
    else if packet.keyframe then some [packet]
    else since.map (· ++ [packet])
  | _ => since

variable {s : EncoderDrain} {packet : VideoPacket} {queued : Bool}

theorem step_output (hdata : packet.data ≠ []) :
    s.step (.output packet queued) = s.sendPacket packet queued := if_neg hdata

theorem step_formatChanged (s : EncoderDrain) (csd : List (List UInt8 × Bool)) :
    (s.step (.formatChanged csd)).awaitingRecoveryKeyframe = s.awaitingRecoveryKeyframe ∧
      (s.step (.formatChanged csd)).sent = s.sent := by
  have none : ∀ configs : List (List UInt8 × Bool), (configs.map fun config =>
      QueuedFrame.codecSpecificData ⟨0, bufferFlagCodecConfig, config.1⟩).filterMap
        QueuedFrame.packet? = [] := by
    intro configs
    induction configs with
    | nil => rfl
    | cons config configs ih => exact ih
  simp only [step]
  split_ifs
  · exact ⟨rfl, rfl⟩
  · refine ⟨rfl, ?_⟩
    rw [sent, sendCodecSpecificData, List.filterMap_append, none, List.append_nil]
    rfl

/-- What a packet does: it is passed over or refused, or it is queued as the last. -/
theorem sendPacket_cases (s : EncoderDrain) (packet : VideoPacket) (queued : Bool) :
    (s.awaitingRecoveryKeyframe = true ∧ packet.keyframe = false ∧ s.sendPacket packet queued = s) ∨
    ((s.sendPacket packet queued).awaitingRecoveryKeyframe = true ∧
      (s.sendPacket packet queued).sent = s.sent) ∨
    ((s.awaitingRecoveryKeyframe = true → packet.keyframe = true) ∧
      (s.sendPacket packet queued).awaitingRecoveryKeyframe = false ∧
      (s.sendPacket packet queued).sent = s.sent ++ [packet]) := by
  unfold sendPacket
  split_ifs with hskip hqueued
  · exact Or.inl ⟨hskip.1, hskip.2, rfl⟩
  · rw [not_and, Bool.not_eq_false] at hskip
    refine Or.inr (Or.inr ⟨hskip, ?_, ?_⟩)
    · cases hawaiting : s.awaitingRecoveryKeyframe with
      | false => rfl
      | true => simp [hskip hawaiting]
    · simp [sent, QueuedFrame.packet?]
  · exact Or.inr (Or.inl ⟨rfl, rfl⟩)

/-- Every packet since the last key frame is at the end of the queue, unless a key frame is
awaited. -/
def Decodable (s : EncoderDrain) (since : Option (List VideoPacket)) : Prop :=
  s.awaitingRecoveryKeyframe = false → ∀ packets ∈ since, packets <:+ s.sent

theorem Decodable.step {since : Option (List VideoPacket)} (h : s.Decodable since) (i : DrainStep) :
    (s.step i).Decodable (sinceKeyframe since i) := by
  cases i with
  | tryAgainLater => exact h
  | formatChanged csd =>
    obtain ⟨hflag, hsame⟩ := s.step_formatChanged csd
    intro hawaiting packets hpackets
    rw [hsame]
    exact h (hflag ▸ hawaiting) packets hpackets
  | output packet queued =>
    simp only [EncoderDrain.step, sinceKeyframe]
    split_ifs with hempty hkey
    · exact h
    · intro hawaiting packets hpackets
      obtain rfl := Option.some.inj hpackets
      rcases s.sendPacket_cases packet queued with ⟨-, hnot, -⟩ | ⟨htrue, -⟩ | ⟨-, -, hsent⟩
      · rw [hkey] at hnot
        cases hnot
      · rw [hawaiting] at htrue
        cases htrue
      · rw [hsent]
        exact List.suffix_append _ _
    · intro hawaiting packets hpackets
      obtain ⟨before, hbefore, rfl⟩ := Option.map_eq_some_iff.mp hpackets
      rcases s.sendPacket_cases packet queued with ⟨hold, -, hsame⟩ | ⟨htrue, -⟩ | ⟨hold, -, hsent⟩
      · rw [hsame, hold] at hawaiting
        cases hawaiting
      · rw [hawaiting] at htrue
        cases htrue
      · rw [hsent]
        have hclear : s.awaitingRecoveryKeyframe = false := by
          rw [← Bool.not_eq_true]
          exact fun htrue => hkey (hold htrue)
        obtain ⟨earlier, hearlier⟩ := h hclear before hbefore
        exact ⟨earlier, by rw [← List.append_assoc, hearlier]⟩

theorem decodable_run (steps : List DrainStep) {since : Option (List VideoPacket)}
    (h : s.Decodable since) : (run step s steps).Decodable (run sinceKeyframe since steps) := by
  induction steps generalizing s since with
  | nil => exact h
  | cons i steps ih => exact ih (h.step i)

/-- While nothing is queued, a key frame that is awaited stays so; only it can be queued. -/
theorem awaiting_step (h : s.awaitingRecoveryKeyframe = true) (i : DrainStep) :
    (s.step i).awaitingRecoveryKeyframe = true ∧ (s.step i).sent = s.sent ∨
      ∃ packet, packet.keyframe = true ∧ (s.step i).sent = s.sent ++ [packet] := by
  cases i with
  | tryAgainLater => exact Or.inl ⟨h, rfl⟩
  | formatChanged csd =>
    obtain ⟨hflag, hsame⟩ := s.step_formatChanged csd
    exact Or.inl ⟨hflag.trans h, hsame⟩
  | output packet queued =>
    simp only [step]
    split_ifs
    · exact Or.inl ⟨h, rfl⟩
    · rcases s.sendPacket_cases packet queued with ⟨-, -, hsame⟩ | hrefused | ⟨hkey, -, hsent⟩
      · rw [hsame]
        exact Or.inl ⟨h, rfl⟩
      · exact Or.inl hrefused
      · exact Or.inr ⟨packet, hkey h, hsent⟩

theorem sent_step (s : EncoderDrain) (i : DrainStep) : s.sent <+: (s.step i).sent := by
  cases i with
  | tryAgainLater => exact List.prefix_rfl
  | formatChanged csd => rw [(s.step_formatChanged csd).2]
  | output packet queued =>
    simp only [step]
    split_ifs
    · exact List.prefix_rfl
    · rcases s.sendPacket_cases packet queued with ⟨-, -, hsame⟩ | ⟨-, hsent⟩ | ⟨-, -, hsent⟩
      · rw [hsame]
      · rw [hsent]
      · rw [hsent]
        exact List.prefix_append _ _

theorem sent_run (s : EncoderDrain) (steps : List DrainStep) :
    s.sent <+: (run step s steps).sent := by
  induction steps generalizing s with
  | nil => exact List.prefix_rfl
  | cons i steps ih => exact (s.sent_step i).trans (ih (s.step i))

theorem awaiting_run (h : s.awaitingRecoveryKeyframe = true) {steps : List DrainStep}
    (hsent : (run step s steps).sent = s.sent) :
    (run step s steps).awaitingRecoveryKeyframe = true := by
  induction steps generalizing s with
  | nil => exact h
  | cons i steps ih =>
    rcases awaiting_step h i with ⟨hawaiting, hsame⟩ | ⟨packet, -, hlonger⟩
    · exact ih hawaiting (hsent.trans hsame.symm)
    · have hprefix := sent_run (s.step i) steps
      rw [run_cons] at hsent
      rw [hsent, hlonger] at hprefix
      have hlength := hprefix.length_le
      rw [List.length_append, List.length_singleton] at hlength
      omega

/-- A packet that gets queued is offered, and it is the last of the queue. -/
theorem queued_packet (h : (s.step (.output packet queued)).sent ≠ s.sent) :
    s.Offers packet ∧ (s.step (.output packet queued)).awaitingRecoveryKeyframe = false := by
  have hdata : packet.data ≠ [] := fun hempty => h (by rw [step, if_pos hempty])
  rw [step_output hdata] at h ⊢
  rcases s.sendPacket_cases packet queued with ⟨-, -, hsame⟩ | ⟨-, hsame⟩ | ⟨hkey, hclear, -⟩
  · rw [hsame] at h
    exact (h rfl).elim
  · exact (h hsame).elim
  · exact ⟨⟨hdata, hkey⟩, hclear⟩

/-- A packet that the queue refuses leaves a key frame awaited. -/
theorem Offers.refused (h : s.Offers packet) :
    (s.step (.output packet false)).awaitingRecoveryKeyframe = true := by
  rw [step_output h.1, sendPacket, if_neg, if_neg Bool.false_ne_true]
  rintro ⟨hawaiting, hkey⟩
  rw [h.2 hawaiting] at hkey
  cases hkey

/-- In a session, a packet that is not a key frame is queued behind all packets that the codec has
output since its last key frame, with none missing; and what is queued next after a refused packet
is a key frame. -/
theorem queued_frames_decodable {steps : List DrainStep}
    (h : ((run step {} steps).step (.output packet queued)).sent ≠ (run step {} steps).sent) :
    (packet.keyframe = false → ∀ packets ∈ run sinceKeyframe none steps,
      packets ++ [packet] <:+ ((run step {} steps).step (.output packet queued)).sent) ∧
    ∀ before refused mid, steps = before ++ .output refused false :: mid →
      (run step {} before).Offers refused →
      (run step {} steps).sent = (run step {} (before ++ [.output refused false])).sent →
      packet.keyframe = true := by
  obtain ⟨hoffers, hclear⟩ := queued_packet h
  constructor
  · intro hkey packets hpackets
    have fresh : ({} : EncoderDrain).Decodable none := nofun
    have hafter := (decodable_run steps fresh).step (.output packet queued)
    refine hafter hclear _ ?_
    simp only [sinceKeyframe]
    rw [if_neg hoffers.1, if_neg (by rw [hkey]; exact Bool.false_ne_true)]
    exact Option.map_eq_some_iff.mpr ⟨packets, hpackets, rfl⟩
  · rintro before refused mid rfl hrefused hsame
    rw [run_append, run_cons, run_snoc] at hsame
    have hawaiting := awaiting_run hrefused.refused hsame
    rw [run_append, run_cons] at hoffers
    exact hoffers.2 hawaiting

/-- A refused frame costs the frame after it too, and the next key frame starts over. -/
theorem queued_frames_decodable_refused :
    ([⟨4, 1, [5]⟩] : List VideoPacket) ++ [⟨5, 0, [6]⟩] <:+ ((run step {} [.output ⟨1, 1, [2]⟩ true,
      .output ⟨2, 0, [3]⟩ false, .output ⟨3, 0, [4]⟩ true, .output ⟨4, 1, [5]⟩ true]).step
        (.output ⟨5, 0, [6]⟩ true)).sent ∧
    (⟨4, 1, [5]⟩ : VideoPacket).keyframe = true :=
  ⟨(queued_frames_decodable (by decide)).1 rfl [⟨4, 1, [5]⟩] rfl,
    (@queued_frames_decodable ⟨4, 1, [5]⟩ true [.output ⟨1, 1, [2]⟩ true, .output ⟨2, 0, [3]⟩ false,
      .output ⟨3, 0, [4]⟩ true] (by decide)).2 [.output ⟨1, 1, [2]⟩ true] ⟨2, 0, [3]⟩
      [.output ⟨3, 0, [4]⟩ true] rfl ⟨by decide, by decide⟩ (by decide)⟩

end EncoderDrain

end AdbControl.Companion
