import AdbControl.Companion.PhoneHandshake

namespace AdbControl.Companion

open Framework

/-- The classes of exceptions that the phone's `catch` clauses tell apart: `SecurityException`, any
other `RuntimeException`, any other `Exception`, and `Error`. -/
inductive ThrowableClass
  | security
  | runtime
  | checked
  | error
  deriving DecidableEq, Repr

structure Throwable where
  kind : ThrowableClass
  simpleName : String
  message : Option String
  deriving DecidableEq, Repr

/-- `Char.isWhitespace` of Kotlin. -/
def isKotlinWhitespace (c : Char) : Bool :=
  let n := c.toNat
  (9 ≤ n && n ≤ 13) || (28 ≤ n && n ≤ 32) || n == 0xA0 || n == 0x1680 ||
    (0x2000 ≤ n && n ≤ 0x200A) || n == 0x2028 || n == 0x2029 || n == 0x202F || n == 0x205F ||
    n == 0x3000

def isNotBlank (s : String) : Bool := s.toList.any (fun c => !isKotlinWhitespace c)

/-- An argument of a command that is not null: a text; a number, with its `toInt()`; or something
else; with what `toString()` gives. -/
inductive CommandArg
  | text (s : String)
  | number (n : Number) (int : Int) (s : String)
  | other (v : Value) (s : String)
  deriving Repr

/-- `toIntOrNull`: digits behind a sign, if they fit into 32 bits. -/
def toIntOrNull (s : String) : Option Int :=
  let (negative, digits) :=
    match s.toList with
    | '-' :: digits => (true, digits)
    | '+' :: digits => (false, digits)
    | digits => (false, digits)
  if digits ≠ [] ∧ digits.all isAsciiDigit then
    let n : Int := Nat.ofDigitChars 10 digits 0
    let n := if negative then -n else n
    if -2^31 ≤ n ∧ n < 2^31 then some n else none
  else none

structure CompanionCommandContext where
  requestId : String
  capabilityId : String
  operation : String
  args : List (String × CommandArg)
  deriving Repr

namespace CompanionCommandContext

def stringArg (context : CompanionCommandContext) (name : String) : Option String :=
  ((context.args.lookup name).map fun arg =>
    match arg with
    | .text s | .number _ _ s | .other _ s => s).filter isNotBlank

def intArg (context : CompanionCommandContext) (name : String) : Option Int :=
  (context.args.lookup name).bind fun arg =>
    match arg with
    | .text s => toIntOrNull s
    | .number _ int _ => some int
    | .other _ _ => none

end CompanionCommandContext

structure CompanionCommandError where
  errorCode : String
  message : String
  module : String
  recoverable : Bool
  suggestion : Option String
  deriving DecidableEq, Repr

structure CompanionCommandResult where
  requestId : String
  ok : Bool
  result : List (String × Value)
  error : Option CompanionCommandError
  deriving Repr

def CompanionCommandError.toPayload (e : CompanionCommandError) : Value :=
  .object [("errorCode", .string e.errorCode), ("message", .string e.message),
    ("module", .string e.module), ("recoverable", .bool e.recoverable),
    ("suggestion", jsonNullable e.suggestion)]

namespace CompanionCommandResult

def toPayload (r : CompanionCommandResult) : List (String × Value) :=
  if r.ok then
    [("requestId", .string r.requestId), ("ok", .bool true), ("result", .object r.result)]
  else
    [("requestId", .string r.requestId), ("ok", .bool false),
      ("error", r.error.elim .null CompanionCommandError.toPayload)]

def success (requestId : String) (result : List (String × Value)) : CompanionCommandResult :=
  ⟨requestId, true, result, none⟩

def failure (requestId errorCode message module : String) (recoverable : Bool)
    (suggestion : Option String) : CompanionCommandResult :=
  ⟨requestId, false, [], some ⟨errorCode, message, module, recoverable, suggestion⟩⟩

end CompanionCommandResult

inductive FeatureHandler
  | input | camera | audioRecord | clipboard | mediaVolume | devicePower | accessibility
  | projection | appList | fileSandbox | telephony | motionSensor | ui
  deriving DecidableEq, Repr

namespace FeatureHandler

def capabilityIds : FeatureHandler → List String
  | input => ["android.input.ime"]
  | camera => ["android.camera.stream"]
  | audioRecord => ["android.audio.record"]
  | clipboard => ["android.clipboard.read", "android.clipboard.write"]
  | mediaVolume => ["android.volume.media"]
  | devicePower => ["android.device.power"]
  | accessibility => ["android.accessibility.control"]
  | projection => ["android.screen.projection"]
  | appList => ["android.app.list"]
  | fileSandbox => ["android.file.read", "android.file.write"]
  | telephony => ["android.phone.call", "android.sms.read", "android.sms.send"]
  | motionSensor => ["android.sensor.motion"]
  | ui => ["android.ui.background_surface", "android.ui.overlay", "android.intent.chain_launch"]

def operations : FeatureHandler → List String
  | input => ["input.text", "input.key"]
  | camera => ["camera.open", "camera.close"]
  | audioRecord => ["audio.record.start", "audio.record.stop"]
  | clipboard => ["clipboard.read", "clipboard.write"]
  | mediaVolume => ["volume.get", "volume.set"]
  | devicePower => ["device.wake", "device.state"]
  | accessibility => ["accessibility.status", "accessibility.global.back",
      "accessibility.global.home", "accessibility.global.recents",
      "accessibility.global.notifications", "accessibility.global.quickSettings",
      "accessibility.global.powerDialog", "accessibility.touch.tap", "accessibility.touch.swipe"]
  | projection => ["projection.start", "projection.stop", "projection.status"]
  | appList => ["app.list"]
  | fileSandbox => ["file.read", "file.write"]
  | telephony => ["phone.call", "sms.read", "sms.send"]
  | motionSensor => ["sensor.subscribe", "sensor.unsubscribe"]
  | ui => ["ui.surface.show", "overlay.show", "overlay.hide", "intent.chainLaunch"]

def canHandle (handler : FeatureHandler) (context : CompanionCommandContext) : Bool :=
  handler.capabilityIds.contains context.capabilityId &&
    handler.operations.contains context.operation

end FeatureHandler

namespace AndroidFeatureDispatcher

/-- The handlers in the order in which they are asked. -/
def handlers : List FeatureHandler :=
  [.input, .camera, .audioRecord, .clipboard, .mediaVolume, .devicePower, .accessibility,
    .projection, .appList, .fileSandbox, .telephony, .motionSensor, .ui]

def isStatusProbe (operation : String) : Bool := ".status".toList.isSuffixOf operation.toList

def describeMissingGrants (evaluation : PermissionEvaluation) : String :=
  let missing := evaluation.missingPermissions ++ evaluation.missingSpecialGrants
  if missing.isEmpty then "请等待伴侣 App 刷新权限状态后重试。"
  else "缺少：" ++ ", ".intercalate missing

/-- `dispatch`, until it calls a handler. -/
def route (guard : PermissionGuard) (context : CompanionCommandContext) :
    Except CompanionCommandResult FeatureHandler :=
  let failure := CompanionCommandResult.failure context.requestId
  match AndroidCapabilityCatalog.defaultCapabilities.find? (·.id == context.capabilityId) with
  | none => .error (failure "COMPANION_CAPABILITY_NOT_FOUND"
      ("伴侣 App 未声明该能力：" ++ context.capabilityId) "companion.dispatcher" false none)
  | some capability =>
    if context.operation ∉ capability.operations then
      .error (failure "COMPANION_OPERATION_NOT_SUPPORTED"
        ("能力 " ++ context.capabilityId ++ " 不支持操作 " ++ context.operation ++ "。")
        "companion.dispatcher" false none)
    else
      let evaluation := guard.evaluate capability
      if evaluation.missingPermissions ≠ [] ∧ isStatusProbe context.operation = false then
        .error (failure "COMPANION_PERMISSION_DENIED"
          ("伴侣 App 缺少 " ++ context.capabilityId ++ " 所需的 Android 权限或特殊授权。")
          "companion.permission" true (some (describeMissingGrants evaluation)))
      else
        match handlers.find? (·.canHandle context) with
        | none => .error (failure "COMPANION_HANDLER_NOT_FOUND"
            ("未注册 " ++ context.capabilityId ++ "/" ++ context.operation ++
              " 对应的 Android 能力处理器。") "companion.dispatcher" true none)
        | some handler => .ok handler

/-- The `catch` clauses of `dispatch`. -/
def caught (context : CompanionCommandContext) (t : Throwable) :
    Except Throwable CompanionCommandResult :=
  match t.kind with
  | .security => .ok (.failure context.requestId "COMPANION_SECURITY_EXCEPTION"
      (t.message.getD "Android 因安全策略拒绝了该操作。") "companion.dispatcher" true
      (some "请刷新权限状态，并让用户授予缺失的 Android 权限。"))
  | .runtime => .ok (.failure context.requestId "COMPANION_HANDLER_FAILED"
      (t.message.getD ("Android 能力处理器执行失败：" ++ t.simpleName)) "companion.dispatcher" true
      none)
  | .checked | .error => .error t

variable {σ : Type*}

/-- What a handler does with a command, and with what the handlers keep. -/
abbrev Handle (σ : Type*) :=
  FeatureHandler → CompanionCommandContext → σ → Except Throwable CompanionCommandResult × σ

def dispatch (guard : PermissionGuard) (handle : Handle σ) (context : CompanionCommandContext)
    (s : σ) : Except Throwable CompanionCommandResult × σ :=
  match route guard context with
  | .error failure => (.ok failure, s)
  | .ok handler =>
    let (outcome, s) := handle handler context s
    (outcome.tryCatch (caught context), s)

/-- A command that does not get to a handler is answered with a failure. -/
theorem route_error {guard : PermissionGuard} {context : CompanionCommandContext}
    {failure : CompanionCommandResult} (h : route guard context = .error failure) :
    failure.requestId = context.requestId ∧ failure.ok = false := by
  unfold route at h
  split at h
  · cases h
    exact ⟨rfl, rfl⟩
  · split at h
    · cases h
      exact ⟨rfl, rfl⟩
    · dsimp only at h
      split at h
      · cases h
        exact ⟨rfl, rfl⟩
      · split at h
        · cases h
          exact ⟨rfl, rfl⟩
        · cases h

theorem caught_ok {context : CompanionCommandContext} {t : Throwable}
    {result : CompanionCommandResult} (h : caught context t = .ok result) :
    result.requestId = context.requestId ∧ result.ok = false := by
  unfold caught at h
  split at h <;> cases h <;> exact ⟨rfl, rfl⟩

/-- A command that gets to a handler is one that the handler can handle, with a capability whose
permissions are granted. -/
theorem route_handler {guard : PermissionGuard} {context : CompanionCommandContext}
    {handler : FeatureHandler} (h : route guard context = .ok handler) :
    handler.canHandle context = true ∧ ∃ capability,
      AndroidCapabilityCatalog.defaultCapabilities.find? (·.id == context.capabilityId) =
        some capability ∧
      ((guard.evaluate capability).missingPermissions = [] ∨
        isStatusProbe context.operation = true) := by
  unfold route at h
  split at h
  · cases h
  · next capability hcapability =>
    split at h
    · cases h
    · dsimp only at h
      split at h
      · cases h
      · next hpermission =>
        split at h
        · cases h
        · next found hfound =>
          cases h
          have able := List.find?_some hfound
          refine ⟨able, capability, hcapability, ?_⟩
          rw [not_and_or, not_not, Bool.not_eq_false] at hpermission
          exact hpermission

/-- A command that passes the checks goes to the first handler that can handle it. -/
theorem route_ok {guard : PermissionGuard} {context : CompanionCommandContext}
    {capability : CompanionCapability} {handler : FeatureHandler}
    (hcapability : AndroidCapabilityCatalog.defaultCapabilities.find?
      (·.id == context.capabilityId) = some capability)
    (hoperation : context.operation ∈ capability.operations)
    (hpermissions : (guard.evaluate capability).missingPermissions = [])
    (hhandler : handlers.find? (·.canHandle context) = some handler) :
    route guard context = .ok handler := by
  unfold route
  simp only [hcapability, hoperation, not_true_eq_false, if_false, hpermissions, ne_eq, false_and,
    hhandler]

theorem dispatch_error {guard : PermissionGuard} {context : CompanionCommandContext}
    {failure : CompanionCommandResult} (h : route guard context = .error failure)
    (handle : Handle σ) (s : σ) : dispatch guard handle context s = (.ok failure, s) := by
  rw [dispatch, h]

theorem dispatch_ok {guard : PermissionGuard} {context : CompanionCommandContext}
    {handler : FeatureHandler} (h : route guard context = .ok handler) (handle : Handle σ) (s : σ) :
    dispatch guard handle context s =
      ((handle handler context s).1.tryCatch (caught context), (handle handler context s).2) := by
  rw [dispatch, h]

end AndroidFeatureDispatcher

end AdbControl.Companion
