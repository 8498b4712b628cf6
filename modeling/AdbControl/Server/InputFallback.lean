import AdbControl.Companion.Accessibility
import AdbControl.Server.DeviceAction

namespace AdbControl.Server.DeviceAction

open Framework
open AdbControl.Companion (Arg Args NumberTexts parseArgs AccessibilityDevice AccessibilityEffect
  AccessibilityCommand ScreenBounds ScreenPoint jsonInt)
open AdbControl.Companion.AccessibilityFeatureHandler (IsExtent scaleAxis scaleAxis_eq toInt_eq_iff)

/-- The arguments of a fallback, as the phone parses them -/
def received (args : List (String × Int)) : Args :=
  parseArgs (args.map fun arg => (arg.1, .number (jsonInt arg.2)))

/-- What the phone answers to the fallback of a request, and what it does -/
def fallback (texts : NumberTexts) (device : AccessibilityDevice) (requestId : String)
    (request : ActionRequest) : Option Companion.AccessibilityFeatureHandler.Answer :=
  (accessibilityFallback request).map fun command =>
    Companion.AccessibilityFeatureHandler.handle texts device
      ⟨requestId, command.1, received command.2⟩

def points (request : ActionRequest) : List ScreenPoint :=
  if request.type = "tap" then [⟨request.x, request.y⟩]
  else [⟨request.x, request.y⟩, ⟨request.endX, request.endY⟩]

/-- The space of a request's points: its own, or the screen where it gives none -/
def space (request : ActionRequest) (screen : ScreenBounds) : ScreenBounds :=
  if request.coordinateWidth = 0 ∧ request.coordinateHeight = 0 then screen
  else ⟨request.coordinateWidth, request.coordinateHeight⟩

def Inside (point : ScreenPoint) (bounds : ScreenBounds) : Prop :=
  0 ≤ point.x ∧ point.x < bounds.width ∧ 0 ≤ point.y ∧ point.y < bounds.height

def onScreen (source screen : ScreenBounds) (point : ScreenPoint) : ScreenPoint :=
  ⟨proportional source.width screen.width point.x, proportional source.height screen.height point.y⟩

/-- How long the gesture of a fallback takes -/
def gestureDuration (request : ActionRequest) : Int :=
  if request.type = "tap" then 60 else Companion.coerceIn request.durationMS 1 3000

/-- The numbers of the fallback are read as they were sent. -/
def ReadsNumbers (texts : NumberTexts) (request : ActionRequest) : Prop :=
  ∀ command ∈ accessibilityFallback request, ∀ arg ∈ command.2, texts.toInt (jsonInt arg.2) = arg.2

/-- The fallback does what `input` would have done: every number is read as it was sent, the gesture
goes through the points in their proportion, and it takes as long. -/
structure Faithful (texts : NumberTexts) (device : AccessibilityDevice) (requestId : String)
    (request : ActionRequest) (adb : List String) : Prop where
  read : ReadsNumbers texts request
  dispatched : ∃ durationMs, (fallback texts device requestId request).map Prod.snd =
      some [.gesture ((points request).map (onScreen (space request device.screen) device.screen))
        durationMs] ∧
    (request.type = "swipe" → adb.getLast? = some (coordinate durationMs))

/-- The extents that an `Int` holds, and durations that are not clamped -/
def InRange (request : ActionRequest) : Prop :=
  IsExtent request.coordinateWidth ∧ IsExtent request.coordinateHeight ∧
    (request.type = "swipe" → 1 ≤ request.durationMS ∧ request.durationMS ≤ 3000)

section Axis

/-- A map of the pixels of one extent to those of another -/
structure Proportionate (source target : Int) (scale : Int → Int) : Prop where
  eq : ∀ value, 0 ≤ value → value < source → scale value = proportional source target value
  inside : ∀ value, 0 ≤ value → value < source → 0 ≤ scale value ∧ scale value < target
  monotone : ∀ value value', 0 ≤ value → value ≤ value' → value' < source → scale value ≤ scale value'
  first : scale 0 = 0
  last : 1 < source → scale (source - 1) = target - 1

theorem scaleAxis_proportionate {source target : Int} (hsource : IsExtent source)
    (htarget : IsExtent target) :
    Proportionate source target (fun value => scaleAxis value source target) := by
  have eq (value : Int) (hvalue : 0 ≤ value) (hinside : value < source) :
      scaleAxis value source target = proportional source target value :=
    scaleAxis_eq hsource htarget hvalue hinside
  refine ⟨eq, ?_, ?_, ?_, ?_⟩
  · intro value hvalue hinside
    rw [eq value hvalue hinside]
    exact ⟨proportional_nonneg hsource.1 htarget.1 hvalue,
      proportional_lt hsource.1 htarget.1 hinside⟩
  · intro value value' hvalue hle hinside
    rw [eq value hvalue (by omega), eq value' (by omega) hinside]
    exact proportional_monotone hsource.1 htarget.1 hle
  · rw [eq 0 le_rfl hsource.1, proportional_zero]
  · intro hwide
    rw [eq (source - 1) (by omega) (by omega), proportional_last hwide]

end Axis

section Request

variable {texts : NumberTexts} {device : AccessibilityDevice} {requestId : String}
  {request : ActionRequest} {deviceID : String} {adb : List String}

/-- The duration that `input` is given -/
theorem swipe_duration (htype : request.type = "swipe")
    (haccepted : actionArguments deviceID request = .ok adb) :
    adb.getLast? = some (coordinate (if request.durationMS ≤ 0 then 300 else request.durationMS)) := by
  simp only [actionArguments, htype] at haccepted
  generalize (if request.durationMS ≤ 0 then 300 else request.durationMS) = duration at haccepted ⊢
  split_ifs at haccepted
  cases haccepted
  rfl

theorem lookup_received (args : List (String × Int)) (name : String) :
    (received args).lookup name = (args.lookup name).map fun n => Arg.number (jsonInt n) := by
  induction args with
  | nil => rfl
  | cons arg args ih =>
    have step : received (arg :: args) = (arg.1, .number (jsonInt arg.2)) :: received args := rfl
    rw [step, List.lookup_cons, List.lookup_cons, ih]
    cases name == arg.1 <;> rfl

/-- A number that is read as it was sent -/
theorem intArg_received {args : List (String × Int)} {name : String} {n : Int}
    (hsent : args.lookup name = some n) (hread : texts.toInt (jsonInt n) = n) :
    (received args).intArg texts name = some n := by
  rw [Args.intArg, lookup_received, hsent]
  exact congrArg some hread

section Bounds

variable {command : AccessibilityCommand} {width height : Int}

theorem coordinateBounds_received (args : List (String × Int)) (requestId operation : String)
    (screen : ScreenBounds) (hwidth : args.lookup "coordinateWidth" = some width)
    (hheight : args.lookup "coordinateHeight" = some height)
    (hreadWidth : texts.toInt (jsonInt width) = width)
    (hreadHeight : texts.toInt (jsonInt height) = height) :
    Companion.AccessibilityFeatureHandler.coordinateBounds texts
        ⟨requestId, operation, received args⟩ screen =
      if 0 < width ∧ 0 < height then some ⟨width, height⟩ else none := by
  simp only [Companion.AccessibilityFeatureHandler.coordinateBounds, lookup_received, hwidth, hheight,
    intArg_received hwidth hreadWidth, intArg_received hheight hreadHeight]
  rfl

/-- A point in the space is mapped in its proportion. -/
theorem mapPoint_inside {point : ScreenPoint} {source screen : ScreenBounds}
    (hwidth : IsExtent source.width) (hheight : IsExtent source.height)
    (hscreenWidth : IsExtent screen.width) (hscreenHeight : IsExtent screen.height)
    (hinside : Inside point source) :
    Companion.AccessibilityFeatureHandler.mapPoint point.x point.y source screen =
      some (onScreen source screen point) := by
  obtain ⟨hx, hx', hy, hy'⟩ := hinside
  rw [Companion.AccessibilityFeatureHandler.mapPoint, if_pos (by
    simp [Companion.AccessibilityFeatureHandler.isPointInsideScreen, hx, hx', hy, hy']),
    scaleAxis_eq hwidth hscreenWidth hx hx', scaleAxis_eq hheight hscreenHeight hy hy']
  rfl

end Bounds

theorem accessibilityFallback_tap (htype : request.type = "tap") :
    accessibilityFallback request = some ("accessibility.touch.tap",
      [("coordinateHeight", request.coordinateHeight), ("coordinateWidth", request.coordinateWidth),
        ("x", request.x), ("y", request.y)]) := by
  simp only [accessibilityFallback, htype]

theorem accessibilityFallback_swipe (htype : request.type = "swipe") :
    accessibilityFallback request = some ("accessibility.touch.swipe",
      [("coordinateHeight", request.coordinateHeight), ("coordinateWidth", request.coordinateWidth),
        ("durationMs", request.durationMS), ("endX", request.endX), ("endY", request.endY),
        ("startX", request.x), ("startY", request.y)]) := by
  simp only [accessibilityFallback, htype]

theorem fallback_tap (htype : request.type = "tap") (hready : device.ready = true)
    (hread : ReadsNumbers texts request) :
    (fallback texts device requestId request).map Prod.snd = some (
      if 0 < request.coordinateWidth ∧ 0 < request.coordinateHeight then
        match Companion.AccessibilityFeatureHandler.mapPoint request.x request.y
          ⟨request.coordinateWidth, request.coordinateHeight⟩ device.screen with
        | some point => [.gesture [point] 60]
        | none => []
      else []) := by
  have hsent := accessibilityFallback_tap htype
  have read := hread _ hsent
  simp only [List.forall_mem_cons] at read
  obtain ⟨hheight, hwidth, hx, hy, -⟩ := read
  rw [fallback, hsent, Option.map_some, Option.map_some]
  simp only [Companion.AccessibilityFeatureHandler.handle,
    Companion.AccessibilityFeatureHandler.performTap, hready, Bool.true_eq_false,
    if_false]
  rw [intArg_received (by rfl) hx, intArg_received (by rfl) hy,
    coordinateBounds_received _ _ _ _ (by rfl) (by rfl) hwidth hheight]
  split_ifs with hspace
  · dsimp only
    cases Companion.AccessibilityFeatureHandler.mapPoint request.x request.y
      ⟨request.coordinateWidth, request.coordinateHeight⟩ device.screen <;> rfl
  · rfl

theorem fallback_swipe (htype : request.type = "swipe") (hready : device.ready = true)
    (hread : ReadsNumbers texts request) :
    (fallback texts device requestId request).map Prod.snd = some (
      if 0 < request.coordinateWidth ∧ 0 < request.coordinateHeight then
        match Companion.AccessibilityFeatureHandler.mapPoint request.x request.y
            ⟨request.coordinateWidth, request.coordinateHeight⟩ device.screen,
          Companion.AccessibilityFeatureHandler.mapPoint request.endX request.endY
            ⟨request.coordinateWidth, request.coordinateHeight⟩ device.screen with
        | some start, some stop =>
          [.gesture [start, stop] (Companion.coerceIn request.durationMS 1 3000)]
        | _, _ => []
      else []) := by
  have hsent := accessibilityFallback_swipe htype
  have read := hread _ hsent
  simp only [List.forall_mem_cons] at read
  obtain ⟨hheight, hwidth, hduration, hendX, hendY, hx, hy, -⟩ := read
  rw [fallback, hsent, Option.map_some, Option.map_some]
  simp only [Companion.AccessibilityFeatureHandler.handle,
    Companion.AccessibilityFeatureHandler.performSwipe, hready, Bool.true_eq_false,
    if_false]
  rw [intArg_received (by rfl) hx, intArg_received (by rfl) hy, intArg_received (by rfl) hendX,
    intArg_received (by rfl) hendY, intArg_received (by rfl) hduration,
    coordinateBounds_received _ _ _ _ (by rfl) (by rfl) hwidth hheight]
  split_ifs with hspace
  · dsimp only
    cases Companion.AccessibilityFeatureHandler.mapPoint request.x request.y
      ⟨request.coordinateWidth, request.coordinateHeight⟩ device.screen <;>
    cases Companion.AccessibilityFeatureHandler.mapPoint request.endX request.endY
      ⟨request.coordinateWidth, request.coordinateHeight⟩ device.screen <;> rfl
  · rfl

/-- A fallback without a coordinate space is refused; in one, its points are mapped. -/
theorem fallback_effects (htype : request.type = "tap" ∨ request.type = "swipe")
    (hready : device.ready = true) (hread : ReadsNumbers texts request) :
    (¬(0 < request.coordinateWidth ∧ 0 < request.coordinateHeight) →
      (fallback texts device requestId request).map Prod.snd = some []) ∧
    (IsExtent request.coordinateWidth → IsExtent request.coordinateHeight →
      IsExtent device.screen.width → IsExtent device.screen.height →
      (∀ point ∈ points request,
        Inside point ⟨request.coordinateWidth, request.coordinateHeight⟩) →
      (fallback texts device requestId request).map Prod.snd = some [.gesture ((points request).map
        (onScreen ⟨request.coordinateWidth, request.coordinateHeight⟩ device.screen))
          (gestureDuration request)]) := by
  rcases htype with htype | htype
  · have hpoints : points request = [⟨request.x, request.y⟩] := if_pos htype
    rw [fallback_tap htype hready hread, hpoints, gestureDuration, if_pos htype]
    refine ⟨fun hspace => by rw [if_neg hspace], ?_⟩
    intro hwidth hheight hscreenWidth hscreenHeight hinside
    rw [List.forall_mem_singleton] at hinside
    rw [if_pos ⟨hwidth.1, hheight.1⟩,
      mapPoint_inside hwidth hheight hscreenWidth hscreenHeight hinside]
    rfl
  · have hnot : request.type ≠ "tap" := by
      rw [htype]
      decide
    have hpoints : points request = [⟨request.x, request.y⟩, ⟨request.endX, request.endY⟩] :=
      if_neg hnot
    rw [fallback_swipe htype hready hread, hpoints, gestureDuration, if_neg hnot]
    refine ⟨fun hspace => by rw [if_neg hspace], ?_⟩
    intro hwidth hheight hscreenWidth hscreenHeight hinside
    obtain ⟨hstart, hend⟩ := List.forall_mem_cons.mp hinside
    rw [List.forall_mem_singleton] at hend
    rw [if_pos ⟨hwidth.1, hheight.1⟩,
      mapPoint_inside hwidth hheight hscreenWidth hscreenHeight hstart,
      mapPoint_inside hwidth hheight hscreenWidth hscreenHeight hend]
    rfl

theorem coordinate_injective : Function.Injective coordinate := by
  intro n m h
  exact Int.repr_injective h

/-- The duration of `input` is the one of the gesture where it is not clamped. -/
theorem coordinate_duration_iff (durationMS : Int) :
    coordinate (if durationMS ≤ 0 then 300 else durationMS) =
        coordinate (Companion.coerceIn durationMS 1 3000) ↔ 1 ≤ durationMS ∧ durationMS ≤ 3000 := by
  rw [coordinate_injective.eq_iff, Companion.coerceIn]
  split_ifs with hdefault <;> omega

/-- A `Long` is read by its low 32 bits. -/
def ReadsLow (texts : NumberTexts) : Prop :=
  ∀ n : Int, -2^63 ≤ n → n < 2^63 → texts.toInt (jsonInt n) = Companion.toInt n

/-- The request consists of Go's `int`s. -/
def IsLong (request : ActionRequest) : Prop :=
  ∀ command ∈ accessibilityFallback request, ∀ arg ∈ command.2, -2^63 ≤ arg.2 ∧ arg.2 < 2^63

theorem readsNumbers_iff (hlow : ReadsLow texts) (hlong : IsLong request) :
    ReadsNumbers texts request ↔
      ∀ command ∈ accessibilityFallback request, ∀ arg ∈ command.2, -2^31 ≤ arg.2 ∧ arg.2 < 2^31 := by
  refine forall₂_congr fun command hcommand => forall₂_congr fun arg harg => ?_
  obtain ⟨hmin, hmax⟩ := hlong command hcommand arg harg
  rw [hlow arg.2 hmin hmax, toInt_eq_iff]

/-- The numbers of a tap or swipe that fit into an `Int` -/
theorem readsNumbers_of_inRange (htype : request.type = "tap" ∨ request.type = "swipe")
    (hlow : ReadsLow texts) (hrange : InRange request)
    (hinside : ∀ point ∈ points request,
      Inside point ⟨request.coordinateWidth, request.coordinateHeight⟩) :
    ReadsNumbers texts request := by
  have small (n : Int) (hmin : -2^31 ≤ n) (hmax : n < 2^31) : texts.toInt (jsonInt n) = n := by
    rw [hlow n (by omega) (by omega), toInt_eq_iff]
    exact ⟨hmin, hmax⟩
  obtain ⟨⟨hwidth, hwidth'⟩, ⟨hheight, hheight'⟩, hduration⟩ := hrange
  rcases htype with htype | htype
  · rw [points, if_pos htype, List.forall_mem_singleton] at hinside
    obtain ⟨hx, hx', hy, hy'⟩ := hinside
    simp only at hx hx' hy hy'
    rw [ReadsNumbers, accessibilityFallback_tap htype]
    simp only [Option.mem_some_iff, forall_eq', List.forall_mem_cons]
    exact ⟨small _ (by omega) hheight', small _ (by omega) hwidth', small _ (by omega) (by omega),
      small _ (by omega) (by omega), fun _ => nofun⟩
  · have hnot : request.type ≠ "tap" := by
      rw [htype]
      decide
    rw [points, if_neg hnot, List.forall_mem_cons, List.forall_mem_singleton] at hinside
    obtain ⟨⟨hx, hx', hy, hy'⟩, hendX, hendX', hendY, hendY'⟩ := hinside
    simp only at hx hx' hy hy' hendX hendX' hendY hendY'
    obtain ⟨hshort, hlong⟩ := hduration htype
    rw [ReadsNumbers, accessibilityFallback_swipe htype]
    simp only [Option.mem_some_iff, forall_eq', List.forall_mem_cons]
    exact ⟨small _ (by omega) hheight', small _ (by omega) hwidth', small _ (by omega) (by omega),
      small _ (by omega) (by omega), small _ (by omega) (by omega), small _ (by omega) (by omega),
      small _ (by omega) (by omega), fun _ => nofun⟩

/-- The scaling of an axis is proportionate for all extents of 32 bits, and the fallback of a tap or a
swipe is faithful exactly when the request gives a coordinate space of such extents and, for a swipe,
a duration that is neither replaced by a default nor clamped. -/
theorem fallback_faithful_iff (htype : request.type = "tap" ∨ request.type = "swipe")
    (haccepted : actionArguments deviceID request = .ok adb) (hready : device.ready = true)
    (hscreen : IsExtent device.screen.width ∧ IsExtent device.screen.height)
    (hinside : ∀ point ∈ points request, Inside point (space request device.screen))
    (hlow : ReadsLow texts) (hlong : IsLong request) :
    (∀ source target, IsExtent source → IsExtent target →
      Proportionate source target (fun value => scaleAxis value source target)) ∧
    (Faithful texts device requestId request adb ↔ InRange request) := by
  refine ⟨fun source target hsource htarget => scaleAxis_proportionate hsource htarget, ?_⟩
  have own (hspace : 0 < request.coordinateWidth ∧ 0 < request.coordinateHeight) :
      space request device.screen = ⟨request.coordinateWidth, request.coordinateHeight⟩ :=
    if_neg fun hnone => by omega
  constructor
  · rintro ⟨hread, durationMs, hdispatched, hduration⟩
    obtain ⟨hrefused, hmapped⟩ :=
      @fallback_effects texts device requestId request htype hready hread
    have hspace : 0 < request.coordinateWidth ∧ 0 < request.coordinateHeight := by
      by_contra hnone
      rw [hrefused hnone] at hdispatched
      cases hdispatched
    have hsmall := (readsNumbers_iff hlow hlong).mp hread
    have hextents : request.coordinateWidth < 2^31 ∧ request.coordinateHeight < 2^31 := by
      rcases htype with htype | htype
      · have hargs := hsmall _ (accessibilityFallback_tap htype)
        simp only [List.forall_mem_cons] at hargs
        omega
      · have hargs := hsmall _ (accessibilityFallback_swipe htype)
        simp only [List.forall_mem_cons] at hargs
        omega
    refine ⟨⟨hspace.1, hextents.1⟩, ⟨hspace.2, hextents.2⟩, ?_⟩
    intro hswipe
    rw [own hspace] at hinside hdispatched
    rw [hmapped ⟨hspace.1, hextents.1⟩ ⟨hspace.2, hextents.2⟩ hscreen.1 hscreen.2 hinside] at hdispatched
    have hsame : gestureDuration request = durationMs := by
      cases hdispatched
      rfl
    have hgesture : gestureDuration request = Companion.coerceIn request.durationMS 1 3000 :=
      if_neg (by
        rw [hswipe]
        decide)
    have hadb := hduration hswipe
    rw [swipe_duration hswipe haccepted, ← hsame, hgesture, Option.some.injEq] at hadb
    exact (coordinate_duration_iff _).mp hadb
  · intro hrange
    obtain ⟨hwidth, hheight, hduration⟩ := hrange
    rw [own ⟨hwidth.1, hheight.1⟩] at hinside
    have hread := readsNumbers_of_inRange htype hlow ⟨hwidth, hheight, hduration⟩ hinside
    refine ⟨hread, gestureDuration request, ?_, ?_⟩
    · rw [own ⟨hwidth.1, hheight.1⟩]
      exact (fallback_effects htype hready hread).2 hwidth hheight hscreen.1 hscreen.2 hinside
    · intro hswipe
      have hgesture : gestureDuration request = Companion.coerceIn request.durationMS 1 3000 :=
        if_neg (by
          rw [hswipe]
          decide)
      rw [swipe_duration hswipe haccepted, hgesture, (coordinate_duration_iff _).mpr (hduration hswipe)]

def pixelScreen : AccessibilityDevice :=
  ⟨true, ⟨1080, 2400⟩, fun _ => true, fun _ _ => true⟩

theorem plainNumbers_readsLow : ReadsLow Companion.plainNumbers := by
  intro n _ _
  unfold jsonInt
  split_ifs with hnegative
  · rfl
  · have hcast : (n.toNat : Int) = n := Int.toNat_of_nonneg (by omega)
    simp only [Companion.plainNumbers, Companion.toInt, hcast]

def swipeRequest : ActionRequest where
  type := "swipe"
  endX := 539
  endY := 1199
  durationMS := 250
  coordinateWidth := 540
  coordinateHeight := 1200

theorem fallback_faithful_iff_swipe :
    Faithful Companion.plainNumbers pixelScreen "r1" swipeRequest
      ["-s", "pixel", "shell", "input", "swipe", "0", "0", "539", "1199", "250"] := by
  refine (@fallback_faithful_iff Companion.plainNumbers pixelScreen "r1" swipeRequest "pixel" _
    (Or.inr rfl) rfl rfl ⟨⟨by decide, by decide⟩, ⟨by decide, by decide⟩⟩ ?_ plainNumbers_readsLow
    ?_).2.mpr ?_
  · unfold Inside
    decide
  · unfold IsLong
    decide
  · unfold InRange IsExtent
    decide

def screenTap : ActionRequest where
  type := "tap"
  x := 10
  y := 20

/-- A tap that names no coordinate space is refused. -/
theorem fallback_refuses_screenTap :
    actionArguments "pixel" screenTap = .ok ["-s", "pixel", "shell", "input", "tap", "10", "20"] ∧
    (∀ point ∈ points screenTap, Inside point (space screenTap pixelScreen.screen)) ∧
    (fallback Companion.plainNumbers pixelScreen "r1" screenTap).map Prod.snd = some [] ∧
    ¬Faithful Companion.plainNumbers pixelScreen "r1" screenTap
      ["-s", "pixel", "shell", "input", "tap", "10", "20"] := by
  have refused : (fallback Companion.plainNumbers pixelScreen "r1" screenTap).map Prod.snd =
      some [] := by decide
  refine ⟨rfl, ?_, refused, ?_⟩
  · unfold Inside
    decide
  · rintro ⟨-, durationMs, hdispatched, -⟩
    rw [refused] at hdispatched
    cases hdispatched

end Request

end AdbControl.Server.DeviceAction
