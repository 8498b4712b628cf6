import AdbControl.Companion.CommandArgs
import AdbControl.Framework.Proportion

namespace AdbControl.Companion

open Framework

structure ScreenBounds where
  width : Int
  height : Int
  deriving DecidableEq

structure ScreenPoint where
  x : Int
  y : Int
  deriving DecidableEq

/-- A command as the accessibility handler gets it -/
structure AccessibilityCommand where
  requestId : String
  operation : String
  args : Args

inductive AccessibilityEffect
  | openAccessibilitySettings
  | globalAction (action : String)
  | gesture (path : List ScreenPoint) (durationMs : Int)
  deriving DecidableEq

/-- What the handler finds: whether the service is connected, the pixels of the screen, and what
Android answers to a global action and to a gesture. -/
structure AccessibilityDevice where
  ready : Bool
  screen : ScreenBounds
  performs : String → Bool
  dispatches : List ScreenPoint → Int → Bool

/-- `Long.toInt` -/
def toInt (n : Int) : Int := n.bmod (2^32)

/-- What 64 bits keep -/
def toLong (n : Int) : Int := n.bmod (2^64)

/-- `coerceIn`, where the bounds are in order -/
def coerceIn (value minimum maximum : Int) : Int := max minimum (min value maximum)

def jsonInt (n : Int) : Number := if n < 0 then .negInt n else .posInt n.toNat

namespace CompanionAccessibilityService

def dispatchTap (x y : Int) : List ScreenPoint × Int := ([⟨x, y⟩], 60)

def dispatchSwipe (startX startY endX endY durationMs : Int) : List ScreenPoint × Int :=
  ([⟨startX, startY⟩, ⟨endX, endY⟩], coerceIn durationMs 1 3000)

end CompanionAccessibilityService

namespace AccessibilityFeatureHandler

variable (texts : NumberTexts) (device : AccessibilityDevice) (command : AccessibilityCommand)

abbrev Answer := CompanionCommandResult × List AccessibilityEffect

/-- The answer where the service is not connected -/
def notReady (label : String) : Answer :=
  (.failure command.requestId "COMPANION_ACCESSIBILITY_NOT_ENABLED"
    ("ADBControl 无障碍辅助尚未启用，无法执行 " ++ label ++ "。") "companion.accessibility" true
    (some "请在 Android 无障碍设置中启用 ADBControl 伴侣 App。"), [.openAccessibilitySettings])

def actionFailed (label suggestion : String) : CompanionCommandResult :=
  .failure command.requestId "COMPANION_ACCESSIBILITY_ACTION_FAILED"
    ("Android 无障碍服务未能执行 " ++ label ++ "。") "companion.accessibility" true (some suggestion)

def invalidArgument (message : String) : Answer :=
  (.failure command.requestId "COMPANION_INVALID_ARGUMENT" message "companion.accessibility" false
    none, [])

def perform (action label : String) : Answer :=
  if device.ready = false then notReady command label
  else if device.performs action then
    (.success command.requestId [("performed", .bool true), ("action", .string label)],
      [.globalAction action])
  else (actionFailed command label "请确认设备未锁屏、系统允许该无障碍全局动作后重试。",
    [.globalAction action])

def isPointInsideScreen (x y : Int) (bounds : ScreenBounds) : Bool :=
  0 ≤ x && 0 ≤ y && x < bounds.width && y < bounds.height

def coordinateBounds (screenBounds : ScreenBounds) : Option ScreenBounds :=
  let hasWidth := (command.args.lookup "coordinateWidth").isSome
  let hasHeight := (command.args.lookup "coordinateHeight").isSome
  if !hasWidth && !hasHeight then some screenBounds
  else if hasWidth != hasHeight then none
  else do
    let width ← command.args.intArg texts "coordinateWidth"
    let height ← command.args.intArg texts "coordinateHeight"
    if 0 < width ∧ 0 < height then some ⟨width, height⟩ else none

def scaleAxis (value sourceExtent targetExtent : Int) : Int :=
  if sourceExtent = 1 ∨ targetExtent = 1 then 0
  else coerceIn (toInt ((toLong (value * toInt (targetExtent - 1))).tdiv (toInt (sourceExtent - 1))))
    0 (toInt (targetExtent - 1))

def mapPoint (x y : Int) (source target : ScreenBounds) : Option ScreenPoint :=
  if isPointInsideScreen x y source then
    some ⟨scaleAxis x source.width target.width, scaleAxis y source.height target.height⟩
  else none

def number (n : Int) : Value := .number (jsonInt n)

def boundsText (bounds : ScreenBounds) : String :=
  toString bounds.width ++ "x" ++ toString bounds.height

/-- The answer to a gesture that Android has been given -/
def dispatchGesture (label : String) (gesture : List ScreenPoint × Int)
    (result : List (String × Value)) : Answer :=
  (if device.dispatches gesture.1 gesture.2 then
    .success command.requestId ([("dispatched", .bool true), ("action", .string label)] ++ result)
  else actionFailed command label "请确认设备未锁屏、系统允许该无障碍动作后重试。",
    [.gesture gesture.1 gesture.2])

def boundsResult (coordinateBounds bounds : ScreenBounds) : List (String × Value) :=
  [("coordinateWidth", number coordinateBounds.width),
    ("coordinateHeight", number coordinateBounds.height), ("screenWidth", number bounds.width),
    ("screenHeight", number bounds.height)]

def performTap : Answer :=
  if device.ready = false then notReady command "触摸点击"
  else
    match command.args.intArg texts "x", command.args.intArg texts "y" with
    | some x, some y =>
      let bounds := device.screen
      match coordinateBounds texts command bounds with
      | none => invalidArgument command "coordinateWidth 和 coordinateHeight 必须同时提供且大于 0。"
      | some coordinateBounds =>
        match mapPoint x y coordinateBounds bounds with
        | none => invalidArgument command ("点击坐标 (" ++ toString x ++ ", " ++ toString y ++
            ") 超出来源坐标空间 " ++ boundsText coordinateBounds ++ "。")
        | some point =>
          dispatchGesture device command "触摸点击"
            (CompanionAccessibilityService.dispatchTap point.x point.y)
            ([("x", number point.x), ("y", number point.y)] ++ boundsResult coordinateBounds bounds)
    | _, _ => invalidArgument command "accessibility.touch.tap 需要整数参数 x 和 y。"

def performSwipe : Answer :=
  if device.ready = false then notReady command "触摸滑动"
  else
    let durationMs := (command.args.intArg texts "durationMs").getD 250
    match command.args.intArg texts "startX", command.args.intArg texts "startY",
      command.args.intArg texts "endX", command.args.intArg texts "endY" with
    | some startX, some startY, some endX, some endY =>
      let bounds := device.screen
      match coordinateBounds texts command bounds with
      | none => invalidArgument command "coordinateWidth 和 coordinateHeight 必须同时提供且大于 0。"
      | some coordinateBounds =>
        match mapPoint startX startY coordinateBounds bounds, mapPoint endX endY coordinateBounds bounds with
        | some start, some «end» =>
          dispatchGesture device command "触摸滑动"
            (CompanionAccessibilityService.dispatchSwipe start.x start.y «end».x «end».y durationMs)
            ([("startX", number start.x), ("startY", number start.y), ("endX", number «end».x),
              ("endY", number «end».y), ("durationMs", number (coerceIn durationMs 1 3000))] ++
              boundsResult coordinateBounds bounds)
        | _, _ => invalidArgument command
            ("滑动坐标超出来源坐标空间 " ++ boundsText coordinateBounds ++ "。")
    | _, _, _, _ => invalidArgument command
        "accessibility.touch.swipe 需要整数参数 startX、startY、endX 和 endY。"

def handle : Answer :=
  match command.operation with
  | "accessibility.status" => (.success command.requestId [("enabled", .bool device.ready)], [])
  | "accessibility.global.back" => perform device command "GLOBAL_ACTION_BACK" "返回"
  | "accessibility.global.home" => perform device command "GLOBAL_ACTION_HOME" "主页"
  | "accessibility.global.recents" => perform device command "GLOBAL_ACTION_RECENTS" "多任务"
  | "accessibility.global.notifications" =>
    perform device command "GLOBAL_ACTION_NOTIFICATIONS" "通知栏"
  | "accessibility.global.quickSettings" =>
    perform device command "GLOBAL_ACTION_QUICK_SETTINGS" "快捷设置"
  | "accessibility.global.powerDialog" =>
    perform device command "GLOBAL_ACTION_POWER_DIALOG" "电源菜单"
  | "accessibility.touch.tap" => performTap texts device command
  | "accessibility.touch.swipe" => performSwipe texts device command
  | operation => (.failure command.requestId "COMPANION_OPERATION_NOT_SUPPORTED"
      ("不支持的无障碍操作：" ++ operation) "companion.accessibility" false none, [])

section Scale

variable {value sourceExtent targetExtent : Int}

/-- An extent in pixels that an `Int` holds -/
def IsExtent (n : Int) : Prop := 0 < n ∧ n < 2^31

theorem toInt_eq_iff (n : Int) : toInt n = n ↔ -2^31 ≤ n ∧ n < 2^31 := by
  unfold toInt
  rw [Int.bmod_def]
  omega

theorem toLong_eq_iff (n : Int) : toLong n = n ↔ -2^63 ≤ n ∧ n < 2^63 := by
  unfold toLong
  rw [Int.bmod_def]
  omega

/-- Nothing overflows, and nothing is clamped. -/
theorem scaleAxis_eq (hsource : IsExtent sourceExtent) (htarget : IsExtent targetExtent)
    (hvalue : 0 ≤ value) (hinside : value < sourceExtent) :
    scaleAxis value sourceExtent targetExtent = proportional sourceExtent targetExtent value := by
  obtain ⟨hsource, hsource'⟩ := hsource
  obtain ⟨htarget, htarget'⟩ := htarget
  unfold scaleAxis
  split_ifs with hone
  · rcases hone with rfl | rfl
    · rw [show value = 0 by omega, proportional_zero]
    · rw [proportional_eq_div hsource]
      simp
  · have hnonneg := proportional_nonneg hsource htarget hvalue
    have hlt := proportional_lt hsource htarget hinside
    have hextent : toInt (targetExtent - 1) = targetExtent - 1 :=
      (toInt_eq_iff _).mpr ⟨by omega, by omega⟩
    have hsourceExtent : toInt (sourceExtent - 1) = sourceExtent - 1 :=
      (toInt_eq_iff _).mpr ⟨by omega, by omega⟩
    have hproduct : toLong (value * (targetExtent - 1)) = value * (targetExtent - 1) := by
      have hnonneg : 0 ≤ value * (targetExtent - 1) := mul_nonneg hvalue (by omega)
      have hbound : value * (targetExtent - 1) ≤ 2^31 * 2^31 :=
        mul_le_mul (by omega) (by omega) (by omega) (by omega)
      exact (toLong_eq_iff _).mpr ⟨by omega, by omega⟩
    have hquotient : (value * (targetExtent - 1)).tdiv (sourceExtent - 1) =
        proportional sourceExtent targetExtent value := by
      rw [proportional_eq_div hsource, Int.tdiv_eq_ediv_of_nonneg (mul_nonneg hvalue (by omega))]
    rw [hextent, hsourceExtent, hproduct, hquotient, (toInt_eq_iff _).mpr ⟨by omega, by omega⟩,
      coerceIn, min_eq_left (by omega), max_eq_right hnonneg]

end Scale

end AccessibilityFeatureHandler

end AdbControl.Companion
