import AdbControl.Server.FileCommands
import AdbControl.Server.FileListing
import AdbControl.Server.FileUpload

namespace AdbControl.Server

open Framework
open AdbControl.Server.DeviceAction (deviceArgs)

/-- What the web pages ask of the files of a device -/
inductive FileRequest
  | files (path : String)
  | createDirectory (path : String)
  | deleteFile (path : String)
  | uploadFile (path fileName : String)
  deriving DecidableEq

/-- What the adb command prints, if it succeeds; and for an upload the file that it is kept in, if it can
be created, and whether it can be written. -/
structure FileEnv where
  output : Option String
  temporary : Option String
  copied : Bool

inductive FileAnswer
  | listing (path : String) (entries : List FileEntry)
  | done
  | failed (status : Nat) (e : Option AppError)

/-- With a slash at its end, `ls` lists the directory that a link leads to. -/
def directoryListingPath (remotePath : String) : String :=
  let cleaned := cleanPath remotePath.toList
  if cleaned = ['/'] then String.ofList cleaned else String.ofList (cleaned ++ ['/'])

/-- The entries, and the commands that adb is given. -/
def listFiles (deviceID remotePath : String) (output : Option String) :
    Option (List FileEntry) × List (List String) :=
  match validateRemotePath remotePath with
  | .error _ => (none, [])
  | .ok _ =>
    (output.map (parseFileListing remotePath),
      [deviceArgs deviceID ["shell", "ls", "-la", directoryListingPath remotePath]])

def files (deviceID path : String) (output : Option String) : FileAnswer × List (List String) :=
  let path := if path = "" then "/sdcard" else path
  match validateRemotePath path with
  | .error _ => (.failed 400 (some remotePathInvalid), [])
  | .ok _ =>
    let listed := listFiles deviceID path output
    match listed.1 with
    | none => (.failed 502 none, listed.2)
    | some entries => (.listing path entries, listed.2)

/-- The handlers of the commands that change a path: whatever fails, they call the path invalid. -/
def changeFile (sent : Except String (List String)) (message : String) (output : Option String) :
    FileAnswer × List (List String) :=
  let failed := FileAnswer.failed 400 (some ⟨"REMOTE_PATH_INVALID", message, "device.files", true, none⟩)
  match sent with
  | .error _ => (failed, [])
  | .ok args => (if output.isSome then .done else failed, [args])

def createDirectory (deviceID path : String) (output : Option String) :
    FileAnswer × List (List String) :=
  changeFile (makeDirectory deviceID path) "目录路径无效" output

def deleteFile (deviceID path : String) (output : Option String) : FileAnswer × List (List String) :=
  changeFile (removeFile deviceID path) "文件路径无效" output

def FileRequest.serve (deviceID : String) (env : FileEnv) :
    FileRequest → FileAnswer × List (List String)
  | files path => Server.files deviceID path env.output
  | createDirectory path => Server.createDirectory deviceID path env.output
  | deleteFile path => Server.deleteFile deviceID path env.output
  | uploadFile path fileName =>
    let uploaded := Server.uploadFile ⟨env.temporary, env.copied, fun _ => env.output.isSome⟩
      ⟨deviceID, path, some fileName⟩
    match uploaded.1 with
    | .failed status e => (.failed status e, uploaded.2)
    | .created _ => (.done, uploaded.2)

/-- Where a request has the files of the device changed -/
def FileRequest.Changes : FileRequest → Prop
  | files _ => False
  | createDirectory path | deleteFile path => BelowSharedStorage (place path.toList)
  | uploadFile path _ => InSharedStorage (place path.toList)

section Answers

variable {deviceID : String} {env : FileEnv}

/-- A listing is of the path that was asked for. -/
theorem serve_files {path : String} (hpath : path ≠ "") :
    ((FileRequest.files path).serve deviceID env).1 = .failed 400 (some remotePathInvalid) ∨
      ((FileRequest.files path).serve deviceID env).1 = .failed 502 none ∨
      ∃ output, ((FileRequest.files path).serve deviceID env).1 =
        .listing path (parseFileListing path output) := by
  simp only [FileRequest.serve, Server.files, if_neg hpath, listFiles]
  cases validateRemotePath path with
  | error e => exact Or.inl rfl
  | ok u =>
    cases env.output with
    | none => exact Or.inr (Or.inl rfl)
    | some output => exact Or.inr (Or.inr ⟨output, rfl⟩)

theorem serve_change {request : FileRequest} (h : ∀ path, request ≠ .files path) (path : String)
    (entries : List FileEntry) : (request.serve deviceID env).1 ≠ .listing path entries := by
  cases request with
  | files path => exact absurd rfl (h path)
  | createDirectory path =>
    simp only [FileRequest.serve, Server.createDirectory, changeFile]
    split
    · simp
    · split_ifs <;> simp
  | deleteFile path =>
    simp only [FileRequest.serve, Server.deleteFile, changeFile]
    split
    · simp
    · split_ifs <;> simp
  | uploadFile path fileName =>
    simp only [FileRequest.serve]
    split <;> simp

/-- What adb is given beside a listing changes files of the shared storage. -/
theorem serve_changes {request : FileRequest} (h : ∀ path, request ≠ .files path) {args : List String}
    (hargs : args ∈ (request.serve deviceID env).2) : request.Changes := by
  have changed {words : List String} {message path : String} {output : Option String}
      (hmem : args ∈ (changeFile (fileCommand words deviceID path) message output).2) :
      BelowSharedStorage (place path.toList) := by
    cases hvalid : validateMutableRemotePath path with
    | error e =>
      rw [fileCommand, hvalid] at hmem
      cases hmem
    | ok u => exact (validateMutableRemotePath_ok_iff.mp hvalid).2
  cases request with
  | files path => exact absurd rfl (h path)
  | createDirectory path => exact changed hargs
  | deleteFile path => exact changed hargs
  | uploadFile path fileName =>
    have hpushed : args ∈ (Server.uploadFile ⟨env.temporary, env.copied, fun _ => env.output.isSome⟩
        ⟨deviceID, path, some fileName⟩).2 := by
      revert hargs
      simp only [FileRequest.serve]
      split <;> exact id
    exact (validateUploadDirectory_ok_iff.mp (uploadFile_pushes hpushed).1).2

end Answers

/-- An entry's path is that of its name in the directory. -/
theorem entry_path {basePath output : String} {entry : FileEntry}
    (h : entry ∈ parseFileListing basePath output) :
    entry.path = String.ofList (joinClean basePath.toList entry.name.toList) := by
  have named {permissions owner group size modified name : List Char}
      (hnamed : namedEntry basePath.toList permissions owner group size modified name = some entry) :
      entry.path = String.ofList (joinClean basePath.toList entry.name.toList) := by
    unfold namedEntry at hnamed
    split_ifs at hnamed
    obtain rfl := Option.some.inj hnamed
    rw [String.toList_ofList]
  obtain ⟨line, -, hline⟩ := List.mem_filterMap.mp h
  unfold readLine at hline
  simp only at hline
  split at hline
  · cases hline
  · unfold parseFileEntry entryOfFields at hline
    simp only at hline
    split_ifs at hline
    · exact named hline
    · exact named hline

end AdbControl.Server
