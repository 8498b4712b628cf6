import AdbControl.Framework.BigEndian
import AdbControl.Error

namespace AdbControl.Server.Scrcpy

open Framework

/-- Whether `EncodeScrcpyTouch` takes its arguments. -/
def acceptsTouch (action x y width height : Int) : Bool :=
  !(decide (action < 0) || decide (action > 2) || decide (width < 1) || decide (height < 1) ||
    decide (width > 65535) || decide (height > 65535) || decide (x < 0) || decide (y < 0) ||
    decide (x ≥ width) || decide (y ≥ height))

/-- Go's conversion of an `int` to an unsigned word of this many bytes -/
def narrow (bytes : Nat) (n : Int) : Nat := (n % 256^bytes).toNat

/-- The message that is filled in. -/
def touchMessage (action : Int) (pointerID : UInt32) (x y width height : Int) : List UInt8 :=
  let pressure := if action = 1 then 0 else 65535
  [2] ++ bigEndian 1 (narrow 1 action) ++
    bigEndian 8 (~~~(1 : UInt64) - pointerID.toUInt64).toNat ++
    bigEndian 4 (narrow 4 x) ++ bigEndian 4 (narrow 4 y) ++
    bigEndian 2 (narrow 2 width) ++ bigEndian 2 (narrow 2 height) ++
    bigEndian 2 pressure ++ List.replicate 8 0

def encodeScrcpyTouch (action : Int) (pointerID : UInt32) (x y width height : Int) :
    Except AppError (List UInt8) :=
  if acceptsTouch action x y width height = false then
    .error ⟨"SCRCPY_TOUCH_INVALID", "投屏触控坐标无效", "device.screen", false, none⟩
  else .ok (touchMessage action pointerID x y width height)

/-- A touch as the device's side reads it out of a message. -/
structure ScrcpyTouch where
  action : Nat
  pointerID : Int
  x : Int
  y : Int
  width : Nat
  height : Nat
  pressure : Nat
  deriving DecidableEq, Repr

/-- It is a touch with these arguments, of which the pointer is written as its complement. -/
def ScrcpyTouch.Shows (touch : ScrcpyTouch) (action : Int) (pointerID : UInt32)
    (x y width height : Int) : Prop :=
  touch.action = action ∧ touch.pointerID = -2 - (pointerID.toNat : Int) ∧ touch.x = x ∧
    touch.y = y ∧ touch.width = width ∧ touch.height = height

/-- The touch lies inside its frame, its pointer is not scrcpy's mouse, and it presses unless it is
a touch-up. -/
structure ScrcpyTouch.Sound (touch : ScrcpyTouch) : Prop where
  insideWidth : 0 ≤ touch.x ∧ touch.x < touch.width
  insideHeight : 0 ≤ touch.y ∧ touch.y < touch.height
  finger : touch.pointerID ≠ -1
  pressure : touch.pressure = 0 ↔ touch.action = 1

/-- The bytes from `offset` on as a number -/
def unsignedAt (message : List UInt8) (offset width : Nat) : Nat :=
  ofBigEndian ((message.drop offset).take width)

/-- The same as a number with a sign -/
def signedAt (message : List UInt8) (offset width : Nat) : Int :=
  (unsignedAt message offset width : Int).bmod (256^width)

def decodeScrcpyTouch (message : List UInt8) : ScrcpyTouch where
  action := unsignedAt message 1 1
  pointerID := signedAt message 2 8
  x := signedAt message 10 4
  y := signedAt message 14 4
  width := unsignedAt message 18 2
  height := unsignedAt message 20 2
  pressure := unsignedAt message 22 2

section

variable {action x y width height : Int} {pointerID : UInt32} {message : List UInt8}

theorem acceptsTouch_iff : acceptsTouch action x y width height = true ↔
    (0 ≤ action ∧ action ≤ 2) ∧ (1 ≤ width ∧ width ≤ 65535) ∧ (1 ≤ height ∧ height ≤ 65535) ∧
      (0 ≤ x ∧ x < width) ∧ 0 ≤ y ∧ y < height := by
  simp only [acceptsTouch, Bool.not_eq_true', Bool.or_eq_false_iff, decide_eq_false_iff_not]
  omega

theorem narrow_of_lt {bytes : Nat} {n : Int} (h0 : 0 ≤ n) (h : n < 256^bytes) :
    narrow bytes n = n.toNat := by
  rw [narrow, Int.emod_eq_of_lt h0 h]

/-- The pointer's word: no pointer of 32 bits makes the difference wrap around. -/
theorem pointerWord_toNat (pointerID : UInt32) :
    (~~~(1 : UInt64) - pointerID.toUInt64).toNat = 2^64 - 2 - pointerID.toNat := by
  have hlt := pointerID.toNat_lt
  rw [UInt64.toNat_sub_of_le, UInt32.toNat_toUInt64]
  · rfl
  · rw [UInt64.le_iff_toNat_le, UInt32.toNat_toUInt64]
    have hword : (~~~(1 : UInt64)).toNat = 2^64 - 2 := rfl
    omega

theorem encodeScrcpyTouch_ok
    (h : encodeScrcpyTouch action pointerID x y width height = .ok message) :
    acceptsTouch action x y width height = true ∧
      message = touchMessage action pointerID x y width height := by
  unfold encodeScrcpyTouch at h
  split_ifs at h with hbad
  exact ⟨Bool.eq_true_of_not_eq_false hbad, (Except.ok.inj h).symm⟩

theorem touchMessage_length : (touchMessage action pointerID x y width height).length = 32 := by
  simp [touchMessage]

/-- What comes after a field is not looked at. -/
theorem unsignedAt_append {after : List UInt8} {offset w : Nat} (h : offset + w ≤ message.length) :
    unsignedAt (message ++ after) offset w = unsignedAt message offset w := by
  rw [unsignedAt, unsignedAt, List.drop_append_of_le_length (by omega),
    List.take_append_of_le_length (by rw [List.length_drop]; omega)]

theorem unsignedAt_last {offset w n : Nat} (h : message.length = offset) (hn : n < 256^w) :
    unsignedAt (message ++ bigEndian w n) offset w = n := by
  rw [unsignedAt, List.drop_left' h, List.take_of_length_le (by rw [bigEndian_length]),
    ofBigEndian_bigEndian_of_lt hn]

/-- A number in the lower half of its word is its own reading with a sign. -/
theorem signedAt_low {offset w n : Nat} (hfield : unsignedAt message offset w = n)
    (hn : 2 * n < 256^w) : signedAt message offset w = n := by
  rw [signedAt, hfield, Int.bmod_def, Int.emod_eq_of_lt (by omega) (by omega)]
  split_ifs <;> omega

theorem signedAt_high {offset w n : Nat} (hfield : unsignedAt message offset w = n)
    (hlow : 256^w < 2 * n) (hn : n < 256^w) : signedAt message offset w = n - (256^w : Nat) := by
  rw [signedAt, hfield, Int.bmod_def, Int.emod_eq_of_lt (by omega) (by omega)]
  split_ifs <;> omega

/-- What is written for accepted arguments is read as them, the pointer as its complement. -/
theorem decodeScrcpyTouch_touchMessage (pointerID : UInt32)
    (h : acceptsTouch action x y width height = true) :
    decodeScrcpyTouch (touchMessage action pointerID x y width height) =
      ⟨action.toNat, -2 - (pointerID.toNat : Int), x, y, width.toNat, height.toNat,
        if action = 1 then 0 else 65535⟩ := by
  obtain ⟨haction, hwidth, hheight, hx, hy⟩ := acceptsTouch_iff.mp h
  have hpointer := pointerID.toNat_lt
  have action1 := @narrow_of_lt 1 action (by omega) (by omega)
  have x4 := @narrow_of_lt 4 x (by omega) (by omega)
  have y4 := @narrow_of_lt 4 y (by omega) (by omega)
  have width2 := @narrow_of_lt 2 width (by omega) (by omega)
  have height2 := @narrow_of_lt 2 height (by omega) (by omega)
  have atPointer : unsignedAt (touchMessage action pointerID x y width height) 2 8 =
      2^64 - 2 - pointerID.toNat := by
    simp (disch := simp) only [touchMessage, unsignedAt_append]
    rw [unsignedAt_last (by simp) (by rw [pointerWord_toNat]; omega), pointerWord_toNat]
  have atX : unsignedAt (touchMessage action pointerID x y width height) 10 4 = x.toNat := by
    simp (disch := simp) only [touchMessage, unsignedAt_append]
    rw [unsignedAt_last (by simp) (by omega), x4]
  have atY : unsignedAt (touchMessage action pointerID x y width height) 14 4 = y.toNat := by
    simp (disch := simp) only [touchMessage, unsignedAt_append]
    rw [unsignedAt_last (by simp) (by omega), y4]
  simp only [decodeScrcpyTouch, ScrcpyTouch.mk.injEq]
  refine ⟨?_, ?_, ?_, ?_, ?_, ?_, ?_⟩
  · simp (disch := simp) only [touchMessage, unsignedAt_append]
    rw [unsignedAt_last (by simp) (by omega), action1]
  · rw [signedAt_high atPointer (by omega) (by omega)]
    omega
  · rw [signedAt_low atX (by omega)]
    omega
  · rw [signedAt_low atY (by omega)]
    omega
  · simp (disch := simp) only [touchMessage, unsignedAt_append]
    rw [unsignedAt_last (by simp) (by omega), width2]
  · simp (disch := simp) only [touchMessage, unsignedAt_append]
    rw [unsignedAt_last (by simp) (by omega), height2]
  · simp (disch := simp) only [touchMessage, unsignedAt_append]
    rw [unsignedAt_last (by simp) (by split_ifs <;> omega)]

end

/-- The message for accepted arguments has 32 bytes and shows them and nothing unsound, and no other
arguments give the same message. -/
theorem touch_messages_unique {action x y width height : Int} {pointerID : UInt32}
    {message : List UInt8}
    (h : encodeScrcpyTouch action pointerID x y width height = .ok message) :
    message.length = 32 ∧
    (decodeScrcpyTouch message).Shows action pointerID x y width height ∧
    (decodeScrcpyTouch message).Sound ∧
    ∀ (action' x' y' width' height' : Int) (pointerID' : UInt32),
      encodeScrcpyTouch action' pointerID' x' y' width' height' = .ok message →
        action' = action ∧ pointerID' = pointerID ∧ x' = x ∧ y' = y ∧ width' = width ∧
          height' = height := by
  obtain ⟨accepted, hmessage⟩ := encodeScrcpyTouch_ok h
  have reading := decodeScrcpyTouch_touchMessage pointerID accepted
  rw [← hmessage] at reading
  obtain ⟨haction, hwidth, hheight, hx, hy⟩ := acceptsTouch_iff.mp accepted
  have hpointer := pointerID.toNat_lt
  refine ⟨hmessage ▸ touchMessage_length, ?_, ?_, ?_⟩
  · rw [reading]
    refine ⟨?_, rfl, rfl, rfl, ?_, ?_⟩ <;> simp only <;> omega
  · rw [reading]
    constructor
    case pressure =>
      show (if action = 1 then 0 else 65535) = 0 ↔ action.toNat = 1
      by_cases hup : action = 1
      · simp [hup]
      · rw [if_neg hup]
        omega
    all_goals simp only; omega
  · intro action' x' y' width' height' pointerID' h'
    obtain ⟨accepted', hmessage'⟩ := encodeScrcpyTouch_ok h'
    have reading' := decodeScrcpyTouch_touchMessage pointerID' accepted'
    obtain ⟨haction', hwidth', hheight', hx', hy'⟩ := acceptsTouch_iff.mp accepted'
    rw [← hmessage', reading] at reading'
    simp only [ScrcpyTouch.mk.injEq] at reading'
    obtain ⟨sameAction, samePointer, sameX, sameY, sameWidth, sameHeight, -⟩ := reading'
    refine ⟨?_, UInt32.toNat_inj.mp ?_, sameX.symm, sameY.symm, ?_, ?_⟩ <;> omega

/-- A finger that is put down in a video of a phone. -/
theorem touch_messages_unique_down :
    (decodeScrcpyTouch (touchMessage 0 7 320 640 1080 2400)).Sound :=
  (@touch_messages_unique 0 320 640 1080 2400 7 _ rfl).2.2.1

end AdbControl.Server.Scrcpy
