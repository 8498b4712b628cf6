import AdbControl.Error

namespace AdbControl

inductive CapabilityProvider
  | adb | androidCompanion
  deriving DecidableEq, Repr

inductive CapabilityTransport
  | ipc | quicControl | quicDataStream | quicMediaStream | quicDatagram
  deriving DecidableEq, Repr

inductive CapabilitySensitivity
  | low | medium | high | critical
  deriving DecidableEq, Repr

structure CapabilityPermissionRequirement where
  androidPermissions : List String
  specialPermissions : List String
  requiresUserConsent : Bool
  auditRequired : Bool
  deriving DecidableEq, Repr

structure Capability where
  id : String
  title : String
  description : String
  provider : CapabilityProvider
  transport : CapabilityTransport
  sensitivity : CapabilitySensitivity
  permission : CapabilityPermissionRequirement
  operations : List String
  deriving DecidableEq, Repr

structure CapabilityPermissionState where
  capabilityId : String
  granted : Bool
  androidPermissions : List String
  missingPermissions : List String
  specialGrants : List String
  missingSpecialGrants : List String
  userConsentRequired : Bool
  deriving DecidableEq, Repr

/-- One row of the catalog; high and critical capabilities are audited. -/
def capability (id title description : String) (transport : CapabilityTransport)
    (sensitivity : CapabilitySensitivity) (operations androidPermissions : List String)
    (specialPermissions : List String) (requiresUserConsent : Bool) : Capability :=
  ⟨id, title, description, .androidCompanion, transport, sensitivity,
    ⟨androidPermissions, specialPermissions, requiresUserConsent,
      sensitivity = .high ∨ sensitivity = .critical⟩, operations⟩

def androidCompanionCapabilityCatalog : List Capability := [
  capability "android.input.ime" "Input method and text injection"
    "Provide controlled text input through the Android companion input channel."
    .quicControl .high ["input.text", "input.key"]
    [] ["input-method-service"] true,
  capability "android.file.read" "File read"
    "Read files that the Android companion is allowed to access."
    .quicDataStream .high ["file.read"]
    ["android.permission.READ_MEDIA_IMAGES", "android.permission.READ_MEDIA_VIDEO"]
    ["scoped-storage-or-document-picker"] true,
  capability "android.file.write" "File write"
    "Write files through scoped storage or user-granted document targets."
    .quicDataStream .high ["file.write"]
    [] ["scoped-storage-or-document-picker"] true,
  capability "android.camera.stream" "Camera stream"
    "Open camera preview stream after permission and foreground visibility checks."
    .quicMediaStream .critical ["camera.open", "camera.close"]
    ["android.permission.CAMERA"] [] true,
  capability "android.audio.record" "Audio recording"
    "Record microphone audio and stream it to Core after explicit authorization."
    .quicMediaStream .critical ["audio.record.start", "audio.record.stop"]
    ["android.permission.RECORD_AUDIO"] [] true,
  capability "android.sms.read" "SMS read"
    "Read SMS only when platform policy and user authorization allow it."
    .quicControl .critical ["sms.read"]
    ["android.permission.READ_SMS"] [] true,
  capability "android.sms.send" "SMS send"
    "Send SMS only after explicit user and policy authorization."
    .quicControl .critical ["sms.send"]
    ["android.permission.SEND_SMS"] [] true,
  capability "android.phone.call" "Phone call"
    "Start a phone call through Android after explicit authorization."
    .quicControl .critical ["phone.call"]
    ["android.permission.CALL_PHONE", "android.permission.READ_PHONE_STATE"] [] true,
  capability "android.clipboard.read" "Clipboard read"
    "Read current clipboard content with foreground and privacy constraints."
    .quicControl .high ["clipboard.read"]
    [] ["foreground-required"] true,
  capability "android.clipboard.write" "Clipboard write"
    "Write clipboard content and mark sensitive clips when requested."
    .quicControl .high ["clipboard.write"]
    [] ["sensitive-clip-flag"] true,
  capability "android.sensor.motion" "Motion and orientation sensors"
    "Subscribe to accelerometer, gyroscope and rotation vector updates."
    .quicDatagram .medium ["sensor.subscribe", "sensor.unsubscribe"]
    [] [] false,
  capability "android.app.list" "Application list"
    "List installed applications visible to the companion app package queries."
    .quicControl .medium ["app.list"]
    [] ["package-visibility-query"] true,
  capability "android.volume.media" "Media volume control"
    "Read or change Android media stream volume."
    .quicControl .medium ["volume.get", "volume.set"]
    [] [] false,
  capability "android.ui.background_surface" "Background surface prompt"
    "Bring a controlled companion UI surface to foreground when policy allows it."
    .quicControl .high ["ui.surface.show"]
    [] ["background-launch-policy"] true,
  capability "android.ui.overlay" "Overlay window"
    "Show a companion overlay after special overlay permission is granted."
    .quicControl .high ["overlay.show", "overlay.hide"]
    ["android.permission.SYSTEM_ALERT_WINDOW"] ["draw-over-apps"] true,
  capability "android.accessibility.control" "Accessibility control"
    ("Perform accessibility-backed global actions and touch gestures after explicit user " ++
      "authorization.")
    .quicControl .critical
    ["accessibility.status", "accessibility.global.back", "accessibility.global.home",
      "accessibility.global.recents", "accessibility.global.notifications",
      "accessibility.global.quickSettings", "accessibility.global.powerDialog",
      "accessibility.touch.tap", "accessibility.touch.swipe"]
    [] ["accessibility-service"] true,
  capability "android.intent.chain_launch" "Chained intent launch"
    "Launch a declared chain of Android intents with strict validation."
    .quicControl .high ["intent.chainLaunch"]
    [] ["explicit-intent-only"] true]

end AdbControl
