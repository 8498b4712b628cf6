import AdbControl.Error
import AdbControl.Framework.Lines

namespace AdbControl.Server

open Framework

structure Device where
  id : String := ""
  name : String := ""
  remark : String := ""
  model : String := ""
  product : String := ""
  state : String := ""
  transport : String := ""
  hardwareID : String := ""
  aliases : List String := []
  deriving DecidableEq, Repr

/-- `strings.Join(fields, " ")`. -/
def joined (fields : List (List Char)) : String := String.ofList ([' '].intercalate fields)

/-- Where the state of a row begins, and how many words it has. -/
def adbDeviceStateIndex : List (List Char) → Option (Nat × Nat)
  | [] => none
  | field :: rest =>
    if field = "device".toList ∨ field = "offline".toList ∨ field = "unauthorized".toList then
      some (0, 1)
    else if field = "no".toList ∧ rest.head? = some "permissions".toList then some (0, 2)
    else (adbDeviceStateIndex rest).map (fun found => (found.1 + 1, found.2))

def isWirelessADBIdentity (deviceID : String) : Bool :=
  decide (":".toList <:+: deviceID.toList) ||
    decide ("._adb-tls-connect._tcp".toList <:+: deviceID.toList) ||
    decide ("._adb._tcp".toList <:+: deviceID.toList)

/-- `strings.Cut(field, ":")`. -/
def cutColon (field : List Char) : Option (List Char × List Char) :=
  if ':' ∈ field then
    some (field.takeWhile (fun c => c != ':'), (field.dropWhile (fun c => c != ':')).tail)
  else none

/-- One word after the state of a row. -/
def readAttribute (device : Device) (field : List Char) : Device :=
  match cutColon field with
  | none => device
  | some (key, value) =>
    if key = "model".toList then
      { device with
        model := String.ofList value
        name := String.ofList (replaceAll ['_'] [' '] value) }
    else if key = "product".toList then { device with product := String.ofList value }
    else device

/-- A row of `adb devices -l`, by its words. -/
def parseDevice (fields : List (List Char)) : Option Device :=
  if fields.length < 2 ∨ fields.head? = some "List".toList then none
  else
    match adbDeviceStateIndex fields with
    | none => none
    | some (stateIndex, stateWidth) =>
      if stateIndex = 0 then none
      else
        let deviceID := joined (fields.take stateIndex)
        let device : Device := {
          id := deviceID
          name := deviceID
          state := joined ((fields.drop stateIndex).take stateWidth)
          transport := if isWirelessADBIdentity deviceID then "wireless" else "usb" }
        some ((fields.drop (stateIndex + stateWidth)).foldl readAttribute device)

def parseDevices (output : String) : List Device :=
  ((replaceAll ['\r', '\n'] ['\n'] output.toList).splitOn '\n').filterMap
    (fun line => parseDevice (splitWhitespace line))

/-- The service name without the ` (n)` of a collision; empty for any other serial. -/
def normalizedMDNSServiceIdentity (deviceID : String) : List Char :=
  match deviceID.toList.dropSuffix? "._adb-tls-connect._tcp".toList with
  | none => []
  | some serviceName =>
    match rfind " (".toList serviceName with
    | none => serviceName
    | some opening =>
      if [')'] <:+ serviceName then
        let suffix := (serviceName.take (serviceName.length - 1)).drop (opening + 2)
        if suffix ≠ [] ∧ suffix.all isAsciiDigit then serviceName.take opening
        else serviceName
      else serviceName

def equivalentDeviceID (left right : String) : Bool :=
  if left = right then true
  else
    let leftService := normalizedMDNSServiceIdentity left
    leftService ≠ [] ∧ leftService = normalizedMDNSServiceIdentity right

/-- `ResolveOnlineDeviceID`, from the outcome of `adb devices -l`. -/
def resolveOnlineDeviceID (output : Except AppError String) (requested : String) :
    Except AppError String := do
  let stdout ← output
  match (parseDevices stdout).find? (fun candidate =>
      candidate.state = "device" ∧ equivalentDeviceID requested candidate.id) with
  | some candidate => pure candidate.id
  | none =>
    .error ⟨"REMOTE_DEVICE_NOT_ONLINE", "已分配设备当前未通过 ADB 在线", "remote.device", true,
      some "请开启设备无线调试并等待自动重连"⟩

theorem readAttribute_id (device : Device) (field : List Char) :
    (readAttribute device field).id = device.id := by
  unfold readAttribute
  split
  · rfl
  · split_ifs <;> rfl

theorem readAttribute_state (device : Device) (field : List Char) :
    (readAttribute device field).state = device.state := by
  unfold readAttribute
  split
  · rfl
  · split_ifs <;> rfl

/-- The words after the state leave the serial and the state as they are. -/
theorem foldl_readAttribute (fields : List (List Char)) (device : Device) :
    (fields.foldl readAttribute device).id = device.id ∧
      (fields.foldl readAttribute device).state = device.state := by
  induction fields generalizing device with
  | nil => exact ⟨rfl, rfl⟩
  | cons field fields ih =>
    rw [List.foldl_cons, (ih _).1, (ih _).2]
    exact ⟨readAttribute_id device field, readAttribute_state device field⟩

example : (parseDevices ("List of devices attached\r\n" ++
    "adb-16a424c7-X9sGA6 (2)._adb-tls-connect._tcp device product:onyx model:P_1\r\n")).map
      Device.name = ["P 1"] := by decide

end AdbControl.Server
