import AdbControl.Framework.Keyed
import AdbControl.Framework.Shell
import AdbControl.Server.Catalog

namespace AdbControl.Server

open Framework

/-- `strings.Cut(line, "=")`. -/
def cutEquals (line : List Char) : Option (List Char × List Char) :=
  if '=' ∈ line then
    some (line.takeWhile (fun c => c != '='), (line.dropWhile (fun c => c != '=')).tail)
  else none

/-- The command that reads what `ParseHardwareID` looks for. -/
def hardwareIDCommand : String :=
  "printf 'serial='; getprop ro.serialno; printf '\nbootserial='; getprop ro.boot.serialno; " ++
    "printf '\nandroid_id='; settings get secure android_id 2>/dev/null"

section

variable (toLower : Char → Char)

def sanitizeHardwareID (value : List Char) : List Char :=
  let value := trim value
  if value.map toLower ∈ ["unknown".toList, "null".toList, "none".toList, "0".toList] then []
  else value

/-- The key and the value of each line that has them. -/
def hardwareValues (output : String) : List (List Char × List Char) :=
  ((output.toList.filter (fun c => c != '\r')).splitOn '\n').filterMap fun line =>
    (cutEquals (trim line)).map fun found => ((trim found.1).map toLower, trim found.2)

/-- The first of the keys with a value that is one; the last line of a key counts. -/
def parseHardwareID (output : String) : String :=
  let values := (hardwareValues toLower output).reverse
  let sanitized (key : String) : List Char :=
    sanitizeHardwareID toLower ((values.lookup key.toList).getD [])
  match ["serial", "bootserial", "android_id"].find? (fun key => sanitized key ≠ []) with
  | none => ""
  | some key => key ++ ":" ++ String.ofList (sanitized key)

end

def fallbackHardwareID (device : Device) : String :=
  let serviceID := normalizedMDNSServiceIdentity device.id
  if serviceID ≠ [] then "mdns:" ++ String.ofList serviceID
  else if device.model ≠ "" ∧ device.product ≠ "" ∧ device.transport = "wireless" then
    "wireless:" ++ device.product ++ ":" ++ device.model
  else "transport:" ++ device.id

def shouldPreferDevice (candidate current : Device) : Bool :=
  if candidate.state = "device" ∧ current.state ≠ "device" then true
  else if candidate.state ≠ "device" ∧ current.state = "device" then false
  else candidate.transport = "usb" ∧ current.transport = "wireless"

/-- The key by which transports are taken for one handset. -/
def hardwareKey (device : Device) : String :=
  if device.hardwareID = "" then "transport:" ++ device.id else device.hardwareID

/-- The entries so far, and where the entry of a key is. -/
structure Deduped where
  result : List Device := []
  indexByHardwareID : Keyed String Nat := ∅

/-- One turn of the loop: the transports of a key share an entry, and the better one leads it. -/
def Deduped.add (deduped : Deduped) (candidate : Device) : Deduped :=
  match deduped.indexByHardwareID[hardwareKey candidate]? with
  | none =>
    { result := deduped.result ++ [candidate]
      indexByHardwareID :=
        deduped.indexByHardwareID.insert (hardwareKey candidate) deduped.result.length }
  | some index =>
    let current := deduped.result.getD index {}
    let kept := { current with
      aliases := aliasesWithoutPrimary current.id
        (appendUnique (appendUnique current.aliases [candidate.id]) candidate.aliases) }
    let preferred := { candidate with
      aliases := aliasesWithoutPrimary candidate.id
        (appendUnique (candidate.aliases ++ [kept.id]) kept.aliases) }
    { deduped with
      result := deduped.result.set index
        (if shouldPreferDevice candidate kept then preferred else kept) }

def dedupeDevicesByHardwareID (devices : List Device) : List Device :=
  (devices.foldl Deduped.add {}).result

example : (dedupeDevicesByHardwareID
    [{ id := "192.168.0.2:5555", state := "device", transport := "wireless", hardwareID := "serial:A" },
      { id := "A", state := "device", transport := "usb", hardwareID := "serial:A" }]).map Device.ids =
    [["A", "192.168.0.2:5555"]] := by decide

end AdbControl.Server
