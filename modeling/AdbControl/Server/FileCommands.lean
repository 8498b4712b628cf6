import AdbControl.Server.AdbShell
import AdbControl.Server.RemotePath

namespace AdbControl.Server

open Framework
open AdbControl.Framework.CommandLine (Dialect commands isLiteralWord)
open AdbControl.Server.DeviceAction (deviceArgs)

/-- What adb is given, for a command with a path that may be changed. -/
def fileCommand (words : List String) (deviceID remotePath : String) :
    Except String (List String) := do
  validateMutableRemotePath remotePath
  .ok (deviceArgs deviceID ("shell" :: words ++ [remotePath]))

def makeDirectory (deviceID remotePath : String) : Except String (List String) :=
  fileCommand ["mkdir", "-p"] deviceID remotePath

def removeFile (deviceID remotePath : String) : Except String (List String) :=
  fileCommand ["rm", "-rf"] deviceID remotePath

/-- The command is sent, the shell runs it alone with the path as its only operand, and the path lies
strictly below the shared storage. -/
structure StaysOn (d : Dialect) (sent : Except String (List String)) (words : List (List Char))
    (path : String) : Prop where
  runs : ∃ args, sent = .ok args ∧ (shellLine args).bind (commands d) = some [words ++ [path.toList]]
  below : BelowSharedStorage (place path.toList)

theorem fileCommand_stays_iff (d : Dialect) (words : List String) (deviceID : String) {path : String}
    (plain : ∀ w ∈ words.map String.toList, Shell.isPlainWord w = true)
    (name : ((words.map String.toList).head?.map CommandLine.isCommandName).getD false = true)
    (h : validateMutableRemotePath path = .ok ()) :
    StaysOn d (fileCommand words deviceID path) (words.map String.toList) path ↔
      isLiteralWord d path.toList = true := by
  have sent : fileCommand words deviceID path =
      .ok (deviceArgs deviceID ("shell" :: words ++ [path])) := by
    rw [fileCommand, h]
    rfl
  have line := shellLine_deviceArgs deviceID words path
  constructor
  · rintro ⟨⟨args, hargs, hruns⟩, -⟩
    rw [sent, Except.ok.injEq] at hargs
    rw [← hargs, line, Option.bind_some] at hruns
    exact (CommandLine.literal_of_commands plain le_rfl hruns).1
  · intro hliteral
    refine ⟨⟨_, sent, ?_⟩, (validateMutableRemotePath_ok_iff.mp h).2⟩
    rw [line, Option.bind_some]
    exact CommandLine.commands_literal plain name hliteral

/-- Removing and making stay on the accepted path exactly when every character of it stands for itself in
a line of the shell. -/
theorem file_commands_stay_iff (d : Dialect) (deviceID : String) {path : String}
    (h : validateMutableRemotePath path = .ok ()) :
    (StaysOn d (removeFile deviceID path) ["rm".toList, "-rf".toList] path ↔
        isLiteralWord d path.toList = true) ∧
      (StaysOn d (makeDirectory deviceID path) ["mkdir".toList, "-p".toList] path ↔
        isLiteralWord d path.toList = true) := by
  have remove := fileCommand_stays_iff d ["rm", "-rf"] deviceID (by decide)
    (by decide) h
  have make := fileCommand_stays_iff d ["mkdir", "-p"] deviceID (by decide)
    (by decide) h
  exact ⟨remove, make⟩

theorem file_commands_stay_documents :
    (StaysOn .posix (removeFile "pixel" "/sdcard/Documents") ["rm".toList, "-rf".toList]
        "/sdcard/Documents" ↔ isLiteralWord .posix "/sdcard/Documents".toList = true) ∧
      (StaysOn .posix (makeDirectory "pixel" "/sdcard/Documents") ["mkdir".toList, "-p".toList]
        "/sdcard/Documents" ↔ isLiteralWord .posix "/sdcard/Documents".toList = true) :=
  file_commands_stay_iff .posix "pixel" (by decide)

/-- A blank in an accepted path makes two operands of it, one of them outside of the shared storage,
and a semicolon has another command run. -/
theorem removes_elsewhere :
    validateMutableRemotePath "/sdcard/a /data" = .ok () ∧
    ((removeFile "pixel" "/sdcard/a /data").toOption.bind shellLine).bind (commands .posix) =
      some [["rm".toList, "-rf".toList, "/sdcard/a".toList, "/data".toList]] ∧
    ¬StaysOn .posix (removeFile "pixel" "/sdcard/a /data") ["rm".toList, "-rf".toList]
      "/sdcard/a /data" ∧
    ((removeFile "pixel" "/sdcard/a;reboot").toOption.bind shellLine).bind (commands .posix) =
      some [["rm".toList, "-rf".toList, "/sdcard/a".toList], ["reboot".toList]] := by
  have accepted : validateMutableRemotePath "/sdcard/a /data" = .ok () := by decide
  have iff := fileCommand_stays_iff .posix ["rm", "-rf"] "pixel" (by decide)
    (by decide) accepted
  refine ⟨accepted, by decide, ?_, by decide⟩
  intro h
  exact absurd (iff.mp h) (by decide)

end AdbControl.Server
