import AdbControl.Framework.Serial
import AdbControl.Server.DeviceService

namespace AdbControl.Server.CompanionUpgrade

open Framework
open AdbControl.Server.DeviceAction (CommandOutput DeviceEnv Failure adbArgsContainNul adbCommandFailure
  companionInstallRequired companionPackageName companionUpgradeRequired contains deviceArgs
  packageListContains)

structure CompanionRequirement where
  apkPath : String
  versionCode : Int
  versionName : String
  deriving DecidableEq, Repr

def CompanionRequirement.configured (r : CompanionRequirement) : Bool :=
  !isBlank r.apkPath && decide (0 < r.versionCode)

structure CompanionPackageInfo where
  installed : Bool
  versionCode : Int
  versionName : String
  deriving DecidableEq, Repr

def CompanionPackageInfo.missing : CompanionPackageInfo := ⟨false, 0, ""⟩

inductive UpgradeState
  | ready
  | missing
  | outdated
  | installed
  | updated
  | reinstalled
  deriving DecidableEq, Repr

structure CompanionUpgradeResult where
  state : UpgradeState
  updated : Bool
  previousVersionCode : Int
  previousVersionName : String
  installedVersionCode : Int
  installedVersionName : String
  requiredVersionCode : Int
  requiredVersionName : String
  deriving DecidableEq, Repr

section Reading

/-- A match of `versionCode=(\d+)\b` at the beginning: its digits. -/
def versionCodeAt (text : List Char) : Option (List Char) :=
  match text.dropPrefix? "versionCode=".toList with
  | none => none
  | some rest =>
    let digits := rest.takeWhile isAsciiDigit
    if digits = [] ∨ (rest.drop digits.length).head?.any isWordChar then none else some digits

/-- The first match of `(?m)\bversionCode=(\d+)\b`, after the character `before`. -/
def findVersionCode : Option Char → List Char → Option (List Char)
  | _, [] => none
  | before, c :: rest =>
    match if before.any isWordChar then none else versionCodeAt (c :: rest) with
    | some digits => some digits
    | none => findVersionCode (some c) rest

/-- A match of `(?m)^\s*versionName=([^\s]+)\s*$` in one line -/
def versionNameIn (line : List Char) : Option (List Char) :=
  match (line.dropWhile isPatternSpace).dropPrefix? "versionName=".toList with
  | none => none
  | some rest =>
    let name := rest.takeWhile fun c => !isPatternSpace c
    if name = [] ∨ ¬(rest.drop name.length).all isPatternSpace then none else some name

def parseCompanionPackageInfo (output : String) : CompanionPackageInfo :=
  let normalized := output.toList.filter fun c => c != '\r'
  if contains normalized "Unable to find package:".toList ∨
      ¬contains normalized ("Package [" ++ companionPackageName ++ "]").toList then .missing
  else {
    installed := true
    versionCode := ((findVersionCode none normalized).map fun digits => (parseVersion digits : Int)).getD 0
    versionName := String.ofList
      (trim (((normalized.splitOn '\n').findSome? versionNameIn).getD [])) }

example : parseCompanionPackageInfo
    "  Package [com.adbcontrol.companion] (5a1c):\n    versionCode=12 minSdk=26\n    versionName=1.2.0\r\n" =
      ⟨true, 12, "1.2.0"⟩ := by decide +kernel

end Reading

section Programs

/-- What a call asks of the system: the file of the package, or a command of adb. The answer to `stat` is
an error or any output. -/
inductive Command
  | stat (path : String)
  | adb (args : List String)
  deriving DecidableEq, Repr

abbrev Reply := Except Failure CommandOutput

abbrev Calling := Program Command Reply

abbrev Answer := Except Failure CompanionUpgradeResult

variable (env : DeviceEnv) (requirement : CompanionRequirement) (deviceID : String)

def noOutput : CommandOutput := ⟨0, "", ""⟩

/-- `Service.Exec`: the output stands beside the error of a command that failed. -/
def exec (args : List String) : Calling (CommandOutput × Option Failure) :=
  if args.any (fun arg => '\x00' ∈ arg.toList) then pure (noOutput, some (.app adbArgsContainNul ""))
  else do
    match ← Program.give (.adb args) with
    | .error e => pure (noOutput, some e)
    | .ok output =>
      pure (output, if output.exitCode ≠ 0 then some (.app (adbCommandFailure env args output) "") else none)

/-- `os.Stat`, which refuses a path with a NUL in it. -/
def stat (path : String) : Calling Bool :=
  if '\x00' ∈ path.toList then pure false
  else do
    match ← Program.give (.stat path) with
    | .error _ => pure false
    | .ok _ => pure true

def listArgs : List String := deviceArgs deviceID ["shell", "pm", "list", "packages", companionPackageName]

def dumpArgs : List String := deviceArgs deviceID ["shell", "dumpsys", "package", companionPackageName]

def uninstallArgs : List String := deviceArgs deviceID ["uninstall", companionPackageName]

def coverArgs : List String := deviceArgs deviceID ["install", "-r", requirement.apkPath]

def installArgs : List String := deviceArgs deviceID ["install", requirement.apkPath]

def probeCompanionPackage : Calling (Except Failure CompanionPackageInfo) := do
  match ← exec env (listArgs deviceID) with
  | (_, some e) => pure (.error e)
  | (listed, none) =>
    if !packageListContains listed.stdout companionPackageName then pure (.ok .missing)
    else
      match ← exec env (dumpArgs deviceID) with
      | (_, some e) => pure (.error e)
      | (output, none) => pure (.ok (parseCompanionPackageInfo output.stdout))

def companionUpgradeResult (current : CompanionPackageInfo) : CompanionUpgradeResult where
  state := .ready
  updated := false
  previousVersionCode := current.versionCode
  previousVersionName := current.versionName
  installedVersionCode := current.versionCode
  installedVersionName := current.versionName
  requiredVersionCode := requirement.versionCode
  requiredVersionName := requirement.versionName

def upgradeError (errorCode message : String) (recoverable : Bool) : AppError :=
  ⟨errorCode, message, "companion.upgrade", recoverable, none⟩

def requirementNotConfigured : AppError :=
  upgradeError "COMPANION_REQUIREMENT_NOT_CONFIGURED" "服务器未配置伴侣版本能力基线" false

def apkMissing : AppError := upgradeError "COMPANION_APK_MISSING" "服务器未打包 Android 伴侣应用" false

def outputDetail (output : CommandOutput) : List Char :=
  (trim (output.stderr.toList ++ '\n' :: output.stdout.toList)).map env.toLower

def isOffline (output : CommandOutput) : Bool :=
  contains (outputDetail env output) "device offline".toList ||
    contains (outputDetail env output) "device not found".toList

def outputSuggestion (output : CommandOutput) : String :=
  String.ofList (trim (output.stderr.toList ++ ' ' :: output.stdout.toList))

def companionInstallError (output : CommandOutput) : AppError :=
  let detail := outputDetail env output
  if contains detail "install_failed_update_incompatible".toList ∨
      contains detail "signatures do not match".toList then
    (upgradeError "COMPANION_SIGNATURE_MISMATCH" "Android 拒绝覆盖：设备中仍存在不同签名的伴侣应用" true).withSuggestion
      "需要先卸载旧伴侣。系统会在你明确确认后执行卸载和重新安装"
  else if contains detail "install_failed_version_downgrade".toList then
    (upgradeError "COMPANION_REINSTALL_REQUIRED" "Android 不允许直接覆盖当前伴侣版本" true).withSuggestion
      "需要先卸载旧伴侣。系统会在你明确确认后执行卸载和重新安装"
  else if isOffline env output then
    (upgradeError "COMPANION_UPGRADE_DEVICE_OFFLINE" "伴侣升级时设备已离线" true).withSuggestion
      "请保持无线调试页面开启并重新连接后重试"
  else (upgradeError "COMPANION_UPGRADE_FAILED" "伴侣覆盖安装失败" true).withSuggestion
    (outputSuggestion output)

def companionUninstallError (output : CommandOutput) : AppError :=
  if isOffline env output then
    (upgradeError "COMPANION_REINSTALL_DEVICE_OFFLINE" "卸载旧伴侣时设备已离线" true).withSuggestion
      "旧伴侣未被卸载；请恢复无线调试连接后重试"
  else (upgradeError "COMPANION_UNINSTALL_FAILED" "无法卸载旧版伴侣应用" true).withSuggestion
    (outputSuggestion output)

def companionReinstallError (output : CommandOutput) : AppError :=
  if isOffline env output then
    (upgradeError "COMPANION_REINSTALL_DEVICE_OFFLINE" "重新安装伴侣时设备已离线" true).withSuggestion
      "旧伴侣可能已卸载；请恢复无线调试连接后再次安装"
  else (upgradeError "COMPANION_REINSTALL_FAILED" "旧伴侣已卸载，但新版伴侣安装失败" true).withSuggestion
    (outputSuggestion output)

def upgradeUnread : AppError :=
  (upgradeError "COMPANION_UPGRADE_VERIFY_FAILED" "伴侣覆盖安装后无法读取设备版本" true).withSuggestion
    "请保持无线调试在线后重试；系统不会卸载现有伴侣"

def upgradeUnmet (installed : CompanionPackageInfo) : AppError :=
  (upgradeError "COMPANION_UPGRADE_VERIFY_FAILED" "伴侣覆盖安装后版本仍不满足能力要求" true).withSuggestion
    ("需要 versionCode " ++ toString requirement.versionCode ++ "，设备当前为 " ++
      toString installed.versionCode)

def reinstallUnmet : AppError :=
  (upgradeError "COMPANION_REINSTALL_VERIFY_FAILED" "重新安装后伴侣版本仍不满足能力要求" true).withSuggestion
    "请保持无线调试在线后重试安装；旧伴侣应用已经卸载"

def CompanionRequirement.unmet (requirement : CompanionRequirement) (installed : CompanionPackageInfo) :
    Prop :=
  installed.installed = false ∨ installed.versionCode < requirement.versionCode

instance CompanionRequirement.decidableUnmet (installed : CompanionPackageInfo) :
    Decidable (requirement.unmet installed) :=
  inferInstanceAs (Decidable (_ ∨ _))

def CompanionUpgradeResult.reached (result : CompanionUpgradeResult) (state : UpgradeState)
    (installed : CompanionPackageInfo) : CompanionUpgradeResult :=
  { result with
    state := state
    updated := true
    installedVersionCode := installed.versionCode
    installedVersionName := installed.versionName }

def checkConfiguredCompanion : Calling Answer :=
  if requirement.configured then do
    match ← probeCompanionPackage env deviceID with
    | .error e => pure (.error e)
    | .ok current =>
      let result := companionUpgradeResult requirement current
      pure (.ok (
        if !current.installed then { result with state := .missing }
        else if current.versionCode < requirement.versionCode then { result with state := .outdated }
        else result))
  else pure (.ok ⟨.ready, false, 0, "", 0, "", 0, ""⟩)

def ensureConfiguredCompanion : Calling Answer := do
  match ← checkConfiguredCompanion env requirement deviceID with
  | .error e => pure (.error e)
  | .ok result => pure (
    match result.state with
    | .missing => .error (.app companionInstallRequired "")
    | .outdated =>
      .error (.app (companionUpgradeRequired result.requiredVersionCode result.installedVersionCode) "")
    | _ => .ok result)

/-- `installCompanion`, once it has the device's lock -/
def installCompanion : Calling Answer := do
  match ← probeCompanionPackage env deviceID with
  | .error e => pure (.error e)
  | .ok current =>
    if ← stat requirement.apkPath then
      match ← exec env (coverArgs requirement deviceID) with
      | (output, some _) => pure (.error (.app (companionInstallError env output) ""))
      | (_, none) =>
        match ← probeCompanionPackage env deviceID with
        | .error _ => pure (.error (.app upgradeUnread ""))
        | .ok installed => pure (
          if requirement.unmet installed then .error (.app (upgradeUnmet requirement installed) "")
          else .ok ((companionUpgradeResult requirement current).reached
            (if current.installed then .updated else .installed) installed))
    else pure (.error (.app apkMissing ""))

/-- A reinstall from the `install` on -/
def installAgain (result : CompanionUpgradeResult) : Calling Answer := do
  match ← exec env (installArgs requirement deviceID) with
  | (output, some _) => pure (.error (.app (companionReinstallError env output) ""))
  | (_, none) =>
    match ← probeCompanionPackage env deviceID with
    | .error _ => pure (.error (.app reinstallUnmet ""))
    | .ok installed => pure (
      if requirement.unmet installed then .error (.app reinstallUnmet "")
      else .ok (result.reached .reinstalled installed))

/-- `ReinstallConfiguredCompanion`, once it has the device's lock -/
def reinstallCompanion : Calling Answer := do
  if ← stat requirement.apkPath then
    match ← probeCompanionPackage env deviceID with
    | .error e => pure (.error e)
    | .ok current =>
      let result := companionUpgradeResult requirement current
      if current.installed then
        match ← exec env (uninstallArgs deviceID) with
        | (output, some _) => pure (.error (.app (companionUninstallError env output) ""))
        | (_, none) => installAgain env requirement deviceID result
      else installAgain env requirement deviceID result
  else pure (.error (.app apkMissing ""))

inductive Call
  | check (deviceID : String)
  | ensure (deviceID : String)
  | forceInstall (deviceID : String)
  | reinstall (deviceID : String)
  deriving DecidableEq, Repr

/-- The calls of the service. A check runs without the device's lock. -/
def calls : Calls Call String Command Reply Answer where
  key
    | .forceInstall deviceID | .reinstall deviceID => if requirement.configured then some deviceID else none
    | .check _ | .ensure _ => none
  program
    | .check deviceID => checkConfiguredCompanion env requirement deviceID
    | .ensure deviceID => ensureConfiguredCompanion env requirement deviceID
    | .forceInstall deviceID =>
      if requirement.configured then installCompanion env requirement deviceID
      else pure (.error (.app requirementNotConfigured ""))
    | .reinstall deviceID =>
      if requirement.configured then reinstallCompanion env requirement deviceID
      else pure (.error (.app requirementNotConfigured ""))

end Programs

end AdbControl.Server.CompanionUpgrade
