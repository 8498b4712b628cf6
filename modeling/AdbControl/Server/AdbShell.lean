import AdbControl.Framework.CommandLine
import AdbControl.Server.DeviceAction

namespace AdbControl.Server

open Framework
open AdbControl.Server.DeviceAction (deviceArgs)

/-- The line that the shell of the device is given: adb joins its arguments with spaces. -/
def shellLine : List String → Option (List Char)
  | "-s" :: _ :: "shell" :: words => some ([' '].intercalate (words.map String.toList))
  | _ => none

/-- Words before the last stand in a joined line with blanks behind them. -/
theorem intercalate_front (front : List (List Char)) (text : List Char) :
    [' '].intercalate (front ++ [text]) = front.flatMap (fun w => w ++ [' ']) ++ text := by
  induction front with
  | nil => simp [List.intercalate]
  | cons w front ih =>
    rw [List.flatMap_cons, List.append_assoc, ← ih]
    cases front with
    | nil => simp [List.intercalate]
    | cons w' front => simp [List.intercalate]

theorem shellLine_deviceArgs (deviceID : String) (words : List String) (text : String) :
    shellLine (deviceArgs deviceID ("shell" :: words ++ [text])) =
      some ((words.map String.toList).flatMap (fun w => w ++ [' ']) ++ text.toList) := by
  rw [← intercalate_front]
  simp [shellLine, deviceArgs]

end AdbControl.Server
