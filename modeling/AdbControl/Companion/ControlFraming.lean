import AdbControl.Companion.ControlStream

namespace AdbControl.Companion

open Framework

namespace ControlReader

variable {peer : ControlPeer} {r : ControlReader} {frames : List (List UInt8)}
  {b : UInt8} {rest : List UInt8}

/-- The reader is where the phone's bytes have brought it, with `rest` still to arrive: inside the
preface, inside or between the frames, or stopped at a frame that was refused. -/
inductive OnTrack (frames : List (List UInt8)) (rest : List UInt8) (r : ControlReader) : Prop
  | refused (e : AppError) (h : r.scan.stop = some (.refused e)) : OnTrack frames rest r
  | preface (hshort : r.preface.length < wirePreface.length)
    (bytes : r.preface ++ rest = wirePreface ++ frames.flatMap frame)
    (hscan : r.scan = start.scan) : OnTrack frames rest r
  | framed (todo : List (List UInt8)) (hpreface : r.preface = wirePreface)
    (hframes : r.scan.state.frames ++ todo = frames) (h : r.scan.Awaits rest todo) :
    OnTrack frames rest r

theorem onTrack_start (frames : List (List UInt8)) :
    OnTrack frames (wirePreface ++ frames.flatMap frame) start :=
  .preface (by decide) rfl rfl

/-- Handling a frame adds it to the decoded ones; the reader goes on unless it is refused. -/
theorem onFrame_cases (peer : ControlPeer) (s : ControlState) (payload : List UInt8) :
    (peer.onFrame s payload).1.frames = s.frames ++ [payload] ∧
      ((peer.onFrame s payload).2 = none ∨ ∃ e, (peer.onFrame s payload).2 = some (.refused e)) := by
  simp only [ControlPeer.onFrame]
  split
  · next e _ => exact ⟨rfl, Or.inr ⟨e, rfl⟩⟩
  · exact ⟨rfl, Or.inl rfl⟩

theorem OnTrack.takeByte (hp : ∀ p ∈ frames, Admissible maxControlMessageBytes p)
    (h : OnTrack frames (b :: rest) r) : OnTrack frames rest (r.takeByte peer b) := by
  cases h with
  | refused e h => exact .refused e (by simp [ControlReader.takeByte, h])
  | preface hshort hbytes hscan =>
    have hbytes' : (r.preface ++ [b]) ++ rest = wirePreface ++ frames.flatMap frame := by
      simpa using hbytes
    have hstop : r.scan.stop = none := by rw [hscan]; rfl
    simp only [ControlReader.takeByte, hstop, if_pos hshort]
    by_cases hfull : (r.preface ++ [b]).length = wirePreface.length
    · obtain ⟨hpre, hrest⟩ := List.append_inj hbytes' hfull
      simp only [hpre, ne_eq, not_true_eq_false, and_false, if_false]
      refine .framed frames rfl (by rw [hscan]; rfl) ?_
      exact Scan.awaits_of_boundary hstop (by rw [hscan]; rfl) hrest
    · rw [if_neg (fun hboth => hfull hboth.1)]
      refine .preface ?_ hbytes' hscan
      rw [List.length_append, List.length_singleton] at hfull ⊢
      omega
  | framed todo hpreface hframes hawaits =>
    have hlong : ¬r.preface.length < wirePreface.length := by rw [hpreface]; exact lt_irrefl _
    have htodo : ∀ p ∈ todo, Admissible maxControlMessageBytes p := by
      intro p hmem
      exact hp p (by rw [← hframes]; exact List.mem_append_right _ hmem)
    have hfeed := @Scan.Awaits.feed _ _ maxControlMessageBytes frameLengthInvalid peer.onFrame
      r.scan b rest todo (by decide) htodo hawaits
    simp only [ControlReader.takeByte, hawaits.running, if_neg hlong]
    rcases hfeed with ⟨hnext, hstate⟩ | ⟨payload, todo', htodo', hrest, hfed⟩
    · exact .framed todo hpreface (by rw [hstate]; exact hframes) hnext
    · obtain ⟨hadded, hgo | ⟨e, hrefused⟩⟩ := onFrame_cases peer r.scan.state payload
      · refine .framed todo' hpreface ?_ ?_
        · rw [hfed, hadded, ← hframes, htodo', List.append_assoc, List.singleton_append]
        · rw [hfed]
          exact Scan.awaits_of_boundary hgo rfl hrest
      · exact .refused e (by rw [hfed]; exact hrefused)

theorem OnTrack.arrive (hp : ∀ p ∈ frames, Admissible maxControlMessageBytes p)
    (bytes : List UInt8) (h : OnTrack frames (bytes ++ rest) r) :
    OnTrack frames rest (r.step peer (.arrive bytes)) := by
  simp only [step]
  induction bytes generalizing r with
  | nil => exact h
  | cons b bytes ih => exact ih (h.takeByte hp)

/-- A heartbeat between two frames, or with no device known, takes nothing away. -/
theorem step_tick_clean (hc : Clean r (.tick false)) : r.step peer (.tick false) = r := by
  simp only [step, Bool.false_eq_true, if_false]
  split_ifs with hoff
  · rfl
  rw [not_or, Option.not_isSome_iff_eq_none] at hoff
  have hknown : r.scan.state.deviceId.isSome = true := by
    simpa [Option.isSome_iff_ne_none] using hoff.2
  have htaken : r.scan.taken = [] := hc hoff.1 hknown
  obtain ⟨preface, taken, state, stop⟩ := r
  have htaken : taken = [] := htaken
  rw [htaken]

/-- Along a clean run that stays open, the reader follows the phone's bytes to their end. -/
theorem OnTrack.run (hp : ∀ p ∈ frames, Admissible maxControlMessageBytes p)
    {events : List StreamEvent} (hopen : ∀ e ∈ events, e.keepsOpen = true)
    (hc : Along (step peer) Clean r events) (h : OnTrack frames (arrived events) r) :
    OnTrack frames [] (run (step peer) r events) := by
  induction events generalizing r with
  | nil => exact h
  | cons event events ih =>
    have hopen' : ∀ e ∈ events, e.keepsOpen = true := fun e he => hopen e (by simp [he])
    refine ih hopen' hc.2 ?_
    cases event with
    | arrive bytes => exact h.arrive hp bytes
    | tick writerGone =>
      cases writerGone with
      | true => exact absurd (hopen (.tick true) (by simp)) (by decide)
      | false =>
        rw [step_tick_clean hc.1]
        exact h
    | finish => exact absurd (hopen .finish (by simp)) (by decide)

/-- When all bytes have arrived and no frame was refused, all frames are decoded. -/
theorem OnTrack.complete (h : OnTrack frames [] r)
    (hrefused : ∀ e, r.scan.stop ≠ some (.refused e)) : r.scan.state.frames = frames := by
  cases h with
  | refused e h => exact absurd h (hrefused e)
  | preface hshort hbytes hscan =>
    have hlength := congrArg List.length hbytes
    simp only [List.append_nil, List.length_append] at hlength
    omega
  | framed todo hpreface hframes hawaits =>
    rw [hawaits.complete, List.append_nil] at hframes
    exact hframes

/-- The bytes that decoded frames stand for. -/
def decodedBytes (s : ControlState) : Nat := (s.frames.map (fun p => p.length + 4)).sum

/-- The bytes that the reader has put to use. -/
def used (r : ControlReader) : Nat :=
  r.preface.length + decodedBytes r.scan.state + r.scan.taken.length

theorem takeByte_used (peer : ControlPeer) (r : ControlReader) (b : UInt8) : (r.takeByte peer b).used ≤ r.used + 1 := by
  simp only [ControlReader.takeByte]
  cases r.scan.stop with
  | some e => exact Nat.le_succ _
  | none =>
    by_cases hshort : r.preface.length < wirePreface.length
    · simp only [if_pos hshort]
      split_ifs <;> simp [used, ended] <;> omega
    · simp only [if_neg hshort]
      have hframe (state : ControlState) (payload : List UInt8) :
          decodedBytes (peer.onFrame state payload).1 ≤ decodedBytes state + payload.length + 4 := by
        simp [decodedBytes, (onFrame_cases peer state payload).1]
        omega
      have hsize := @Scan.feed_size _ _ maxControlMessageBytes frameLengthInvalid peer.onFrame
        decodedBytes hframe r.scan b
      simp only [used]
      omega

/-- No step uses more bytes than arrive with it. -/
theorem step_used (peer : ControlPeer) (r : ControlReader) (event : StreamEvent) :
    (r.step peer event).used ≤ r.used + (arrived [event]).length := by
  cases event with
  | arrive bytes =>
    simp only [step, arrived, List.append_nil]
    induction bytes generalizing r with
    | nil => exact le_refl _
    | cons b bytes ih =>
      have hfirst := takeByte_used peer r b
      have hrest := ih (r.takeByte peer b)
      simp only [List.foldl_cons, List.length_cons]
      omega
  | tick writerGone =>
    simp only [step, arrived]
    split_ifs <;> simp [used, ended]
  | finish =>
    simp only [step, arrived]
    split_ifs <;> simp [used, ended]

theorem arrived_append (events events' : List StreamEvent) :
    arrived (events ++ events') = arrived events ++ arrived events' := by
  induction events with
  | nil => rfl
  | cons event events ih => cases event <;> simp [arrived, ih]

theorem run_used (peer : ControlPeer) (r : ControlReader) (events : List StreamEvent) :
    (Framework.run (step peer) r events).used ≤ r.used + (arrived events).length := by
  induction events generalizing r with
  | nil => exact le_refl _
  | cons event events ih =>
    have hfirst := step_used peer r event
    have hrest := ih (r.step peer event)
    have hsplit := congrArg List.length (arrived_append [event] events)
    rw [List.singleton_append, List.length_append] at hsplit
    rw [run_cons]
    omega

/-- Before the preface is complete no device is known. -/
def Prefaced (r : ControlReader) : Prop :=
  r.preface.length < wirePreface.length → r.scan.state.deviceId = none

theorem takeByte_prefaced (peer : ControlPeer) (b : UInt8) (h : r.Prefaced) :
    (r.takeByte peer b).Prefaced ∧ r.preface.length ≤ (r.takeByte peer b).preface.length := by
  simp only [ControlReader.takeByte]
  cases r.scan.stop with
  | some e => exact ⟨h, le_refl _⟩
  | none =>
    by_cases hshort : r.preface.length < wirePreface.length
    · have hnone := h hshort
      simp only [if_pos hshort]
      split_ifs <;> exact ⟨fun _ => hnone, by simp [ended]⟩
    · simp only [if_neg hshort]
      exact ⟨fun hs => absurd hs hshort, le_refl _⟩

theorem step_prefaced (peer : ControlPeer) (event : StreamEvent) (h : r.Prefaced) :
    (r.step peer event).Prefaced ∧ r.preface.length ≤ (r.step peer event).preface.length := by
  cases event with
  | arrive bytes =>
    simp only [step]
    induction bytes generalizing r with
    | nil => exact ⟨h, le_refl _⟩
    | cons b bytes ih =>
      obtain ⟨hnext, hle⟩ := takeByte_prefaced peer b h
      obtain ⟨hlast, hle'⟩ := ih hnext
      exact ⟨hlast, le_trans hle hle'⟩
  | tick writerGone =>
    simp only [step]
    split_ifs <;> exact ⟨h, le_refl _⟩
  | finish =>
    simp only [step]
    split_ifs <;> exact ⟨h, le_refl _⟩

theorem run_prefaced (peer : ControlPeer) (events : List StreamEvent) (h : r.Prefaced) :
    (Framework.run (step peer) r events).Prefaced ∧
      r.preface.length ≤ (Framework.run (step peer) r events).preface.length := by
  induction events generalizing r with
  | nil => exact ⟨h, le_refl _⟩
  | cons event events ih =>
    obtain ⟨hnext, hle⟩ := step_prefaced peer event h
    obtain ⟨hlast, hle'⟩ := ih hnext
    exact ⟨hlast, le_trans hle hle'⟩

/-- A heartbeat inside a frame throws away bytes. -/
theorem tick_used (peer : ControlPeer) {writerGone : Bool} (hdirty : ¬Clean r (.tick writerGone)) :
    r.scan.state.deviceId.isSome = true ∧ (r.step peer (.tick writerGone)).used < r.used := by
  simp only [Clean, Classical.not_imp] at hdirty
  obtain ⟨hstop, hknown, htaken⟩ := hdirty
  refine ⟨hknown, ?_⟩
  have hon : ¬(r.scan.stop.isSome = true ∨ r.scan.state.deviceId.isNone = true) := by
    simp [hstop, Option.isSome_iff_ne_none.mp hknown]
  have hpos := List.length_pos_iff.mpr htaken
  simp only [step, if_neg hon]
  split_ifs <;> simp [used, ended] <;> omega

/-- A heartbeat inside a frame loses it: fewer bytes are put to use than the phone has written. -/
theorem frames_ne_of_dirty {events : List StreamEvent}
    (harrive : arrived events = wirePreface ++ frames.flatMap frame)
    (hdirty : ¬Along (step peer) Clean start events) :
    (Framework.run (step peer) start events).scan.state.frames ≠ frames := by
  intro hdecoded
  obtain ⟨pre, event, post, he, hdirty'⟩ : ∃ pre event post, events = pre ++ event :: post ∧
      ¬Clean (Framework.run (step peer) start pre) event := by
    by_contra hnone
    push Not at hnone
    exact hdirty (along_of_at hnone)
  cases event with
  | arrive bytes => exact hdirty' trivial
  | finish => exact hdirty' trivial
  | tick writerGone =>
    have hstart : Prefaced start := fun _ => rfl
    obtain ⟨hknown, hlost⟩ := tick_used peer hdirty'
    obtain ⟨hprefaced, -⟩ := run_prefaced peer pre hstart
    obtain ⟨hprefaced', hkept⟩ := step_prefaced peer (.tick writerGone) hprefaced
    obtain ⟨-, hkept'⟩ := run_prefaced peer post hprefaced'
    have hfull : wirePreface.length ≤ (Framework.run (step peer) start pre).preface.length := by
      by_contra hshort
      simp [hprefaced (not_le.mp hshort)] at hknown
    have hbefore := run_used peer start pre
    have hafter := run_used peer ((Framework.run (step peer) start pre).step peer
      (.tick writerGone)) post
    have hbytes := congrArg List.length (arrived_append pre (.tick writerGone :: post))
    rw [← he, harrive] at hbytes
    have hzero : start.used = 0 := rfl
    have hsum : (frames.flatMap frame).length = decodedBytes ⟨none, frames⟩ := by
      simp [decodedBytes, List.length_flatMap]
    have hend : (Framework.run (step peer) start events).used =
        (Framework.run (step peer) start events).preface.length + decodedBytes ⟨none, frames⟩ +
          (Framework.run (step peer) start events).scan.taken.length := by
      rw [used, decodedBytes, hdecoded]
      rfl
    rw [he, run_append, run_cons] at hend
    simp only [List.length_append, arrived] at hbytes
    omega

end ControlReader

/-- The phone writes its admissible messages as frames, one behind the other. -/
theorem phoneWriter_frames {frames : List (List UInt8)}
    (hp : ∀ p ∈ frames, Admissible maxControlMessageBytes p) :
    phoneWriter frames = frames.flatMap frame := by
  induction frames with
  | nil => rfl
  | cons payload frames ih =>
    have hle := (hp payload (by simp)).2
    rw [phoneWriter, if_neg (not_lt.mpr hle), ih (fun p hmem => hp p (by simp [hmem]))]
    rfl

/-- Core's writer stops at the first message of inadmissible length. -/
theorem controlWriter_wire (queue : List (List UInt8)) :
    (controlWriter queue).1 =
      (queue.takeWhile (fun m => Admissible maxControlMessageBytes m)).flatMap frame := by
  induction queue with
  | nil => rfl
  | cons bytes queue ih =>
    by_cases hp : Admissible maxControlMessageBytes bytes
    · have hwrite : writeControlFrame bytes = .ok (frame bytes) := by
        obtain ⟨hpos, hle⟩ := hp
        rw [writeControlFrame, if_neg]
        · rfl
        · simp only [List.isEmpty_iff, not_or, not_lt]
          exact ⟨List.ne_nil_of_length_pos hpos, hle⟩
      simp [controlWriter, hwrite, hp, ih]
    · have hwrite : ∃ e, writeControlFrame bytes = .error e := by
        simp only [Admissible, not_and_or, not_lt, Nat.le_zero, not_le] at hp
        rw [writeControlFrame, if_pos (by simpa [List.isEmpty_iff] using hp)]
        exact ⟨_, rfl⟩
      obtain ⟨e, hwrite⟩ := hwrite
      simp [controlWriter, hwrite, hp]

theorem phoneOnFrame_foldl (messages before : List String) :
    (messages.map utf8Bytes).foldl (fun state payload => (phoneOnFrame state payload).1) before =
      before ++ messages := by
  induction messages generalizing before with
  | nil => simp
  | cons message messages ih =>
    rw [List.map_cons, List.foldl_cons, ih]
    simp [phoneOnFrame, fromUtf8_utf8Bytes]

theorem phoneReads_frames (messages : List String)
    (hp : ∀ m ∈ messages, Admissible maxControlMessageBytes (utf8Bytes m)) :
    phoneReads ((messages.map utf8Bytes).flatMap frame) = messages := by
  have hp' : ∀ p ∈ messages.map utf8Bytes, Admissible maxControlMessageBytes p := by
    intro p hmem
    obtain ⟨m, hm, rfl⟩ := List.mem_map.mp hmem
    exact hp m hm
  have go (state : List String) (payload : List UInt8) : (phoneOnFrame state payload).2 = none := by
    simp only [phoneOnFrame]
    split <;> rfl
  have hstart : (⟨[], [], none⟩ : Scan (List String) Unit).Awaits
      ((messages.map utf8Bytes).flatMap frame) (messages.map utf8Bytes) :=
    Scan.awaits_of_boundary rfl rfl rfl
  have hall := @Scan.Awaits.feedAll _ _ maxControlMessageBytes () phoneOnFrame _ _ _
    (by decide) go hp' hstart
  rw [phoneReads, hall, phoneOnFrame_foldl, List.nil_append]

/-- Both directions of a control stream. Core decodes exactly the frames that the phone wrote if and
only if every heartbeat that fires does so between two frames; and the phone reads exactly the
messages of admissible length if and only if none of them is queued behind another message. -/
theorem control_stream_lossless_iff (peer : ControlPeer) (frames : List (List UInt8))
    (events : List StreamEvent) (messages : List String)
    (hframes : ∀ p ∈ frames, Admissible maxControlMessageBytes p)
    (harrive : arrived events = wirePreface ++ phoneWriter frames)
    (hopen : ∀ e ∈ events, e.keepsOpen = true)
    (haccepted : ∀ e, (run (ControlReader.step peer) .start events).scan.stop ≠
      some (.refused e)) :
    ((run (ControlReader.step peer) .start events).scan.state.frames = frames ↔
      Along (ControlReader.step peer) ControlReader.Clean .start events) ∧
    (phoneReads (controlWriter (messages.map utf8Bytes)).1 =
        messages.filter (fun m => Admissible maxControlMessageBytes (utf8Bytes m)) ↔
      messages.Pairwise (fun m m' => Admissible maxControlMessageBytes (utf8Bytes m') →
        Admissible maxControlMessageBytes (utf8Bytes m))) := by
  rw [phoneWriter_frames hframes] at harrive
  constructor
  · constructor
    · intro hdecoded
      by_contra hdirty
      exact ControlReader.frames_ne_of_dirty harrive hdirty hdecoded
    · intro hc
      have hstart := ControlReader.onTrack_start frames
      rw [← harrive] at hstart
      exact (hstart.run hframes hopen hc).complete haccepted
  · have hread : phoneReads (controlWriter (messages.map utf8Bytes)).1 =
        messages.takeWhile (fun m => Admissible maxControlMessageBytes (utf8Bytes m)) := by
      rw [controlWriter_wire, List.takeWhile_map]
      refine phoneReads_frames _ ?_
      intro m hm
      simpa using List.mem_takeWhile_imp hm
    rw [hread, takeWhile_eq_filter_iff]
    simp only [decide_eq_true_eq]

def helloText : String :=
  "\x7b\"protocol\":\"adbcontrol-companion-quic\",\"version\":1,\"messageId\":\"hello\"," ++
  "\"deviceId\":\"phone-a\",\"channel\":\"control\",\"kind\":\"hello\",\"payload\":\x7b" ++
  "\"appVersion\":\"0.13.0\",\"deviceId\":\"phone-a\",\"deviceName\":\"Test phone\"," ++
  "\"androidSdk\":35,\"supportedProtocolVersions\":[1]\x7d\x7d"

def heartbeatText : String :=
  "\x7b\"protocol\":\"adbcontrol-companion-quic\",\"version\":1,\"messageId\":\"heartbeat\"," ++
  "\"deviceId\":\"phone-a\",\"channel\":\"control\",\"kind\":\"heartbeat\"\x7d"

/-- A phone that sends these two texts, alone with Core. -/
def samplePeer : ControlPeer :=
  let decode (bytes : List UInt8) : Option QuicEnvelope :=
    if bytes = utf8Bytes helloText then some (sampleHello "phone-a")
    else if bytes = utf8Bytes heartbeatText then some (sampleHeartbeat "phone-a")
    else none
  { connectionId := 1
    outgoing := 1
    decode
    live := fun frames => (frames.filterMap decode).foldl
      (fun s envelope => (s.acceptEnvelope 1 1 false envelope).state) .start
    writerGone := fun _ => false }

def sampleFrames : List (List UInt8) := [utf8Bytes helloText, utf8Bytes heartbeatText]

/-- The phone's bytes in three pieces, with a heartbeat of Core behind each of the first two. -/
def inPieces (first second : Nat) : List StreamEvent :=
  let wire := wirePreface ++ phoneWriter sampleFrames
  [.arrive (wire.take first), .tick false, .arrive ((wire.drop first).take second), .tick false,
    .arrive (wire.drop (first + second))]

/-- The first heartbeat fires before any device is known, the second one between the frames. -/
theorem control_stream_lossless_between :
    (run (ControlReader.step samplePeer) .start (inPieces 100 166)).scan.state.frames =
        sampleFrames ∧
      phoneReads (controlWriter (["ping", "pong", ""].map utf8Bytes)).1 = ["ping", "pong"] := by
  have hrun : (run (ControlReader.step samplePeer) .start (inPieces 100 166)).scan.stop = none ∧
      Along (ControlReader.step samplePeer) ControlReader.Clean .start (inPieces 100 166) := by
    decide +kernel
  have hboth := control_stream_lossless_iff samplePeer sampleFrames (inPieces 100 166)
    ["ping", "pong", ""] (by decide +kernel) (by decide +kernel) (by decide +kernel)
    (by rw [hrun.1]; intro e he; cases he)
  exact ⟨hboth.1.mpr hrun.2, (hboth.2.mpr (by decide)).trans (by decide)⟩

/-- One byte more than a frame may have. -/
def overlongMessage : String := String.ofList (List.replicate (maxControlMessageBytes + 1) 'a')

/-- A heartbeat after two bytes of the second frame loses the frame, and an over-long message
stops the one queued behind it. -/
theorem control_stream_loses :
    (¬∀ (peer : ControlPeer) (frames : List (List UInt8)) (events : List StreamEvent),
      (∀ p ∈ frames, Admissible maxControlMessageBytes p) →
      arrived events = wirePreface ++ phoneWriter frames →
      (∀ e ∈ events, e.keepsOpen = true) →
      (∀ e, (run (ControlReader.step peer) .start events).scan.stop ≠ some (.refused e)) →
      (run (ControlReader.step peer) .start events).scan.state.frames = frames) ∧
    phoneReads (controlWriter ([overlongMessage, "ping"].map utf8Bytes)).1 ≠
      [overlongMessage, "ping"].filter
        (fun m => Admissible maxControlMessageBytes (utf8Bytes m)) := by
  constructor
  · intro h
    have hrun : (run (ControlReader.step samplePeer) .start (inPieces 100 168)).scan.stop =
          some ControlReader.frameLengthInvalid ∧
        (run (ControlReader.step samplePeer) .start (inPieces 100 168)).scan.state.frames ≠
          sampleFrames := by decide +kernel
    have hdecoded := h samplePeer sampleFrames (inPieces 100 168) (by decide +kernel)
      (by decide +kernel) (by decide +kernel)
      (by rw [hrun.1]; intro e he; cases he)
    exact hrun.2 hdecoded
  · have hlong : ¬Admissible maxControlMessageBytes (utf8Bytes overlongMessage) := by
      simp only [Admissible, overlongMessage, utf8Bytes_ofList, List.length_flatMap,
        List.map_replicate, List.sum_replicate, not_and, not_le]
      intro _
      exact Nat.lt_succ_self _
    have hping : Admissible maxControlMessageBytes (utf8Bytes "ping") := by decide
    rw [controlWriter_wire, List.map_cons, List.takeWhile_cons_of_neg (by simpa using hlong),
      List.filter_cons_of_neg (by simpa using hlong),
      List.filter_cons_of_pos (by simpa using hping)]
    decide

end AdbControl.Companion
