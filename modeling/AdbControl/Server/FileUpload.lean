import AdbControl.Server.DeviceAction
import AdbControl.Server.RemotePath

namespace AdbControl.Server

open Framework
open AdbControl.Server.DeviceAction (deviceArgs)

/-- What the handler reads of its request: the path value, the query, and the name of the file in the
form, if there is one. -/
structure UploadRequest where
  id : String
  path : String
  fileName : Option String

/-- The file that the upload is kept in, if it can be created; whether it can be written; and how the
transfer ends. -/
structure UploadEnv where
  temporary : Option String
  copied : Bool
  transfer : List String → Bool

inductive UploadAnswer
  | failed (status : Nat) (e : Option AppError)
  | created (path : String)

def remotePathInvalid : AppError :=
  ⟨"REMOTE_PATH_INVALID", "设备路径无效", "device.files", true, none⟩

def remoteFile (remote fileName : String) : String :=
  String.ofList (remote.toList.rdropWhile (fun c => c = '/') ++ '/' :: baseName fileName.toList)

/-- The answer, and the commands that adb is given. -/
def uploadFile (env : UploadEnv) (request : UploadRequest) : UploadAnswer × List (List String) :=
  match validateUploadDirectory request.path with
  | .error _ => (.failed 400 (some remotePathInvalid), [])
  | .ok _ =>
    match request.fileName, env.temporary with
    | none, _ => (.failed 400 none, [])
    | some _, none => (.failed 500 none, [])
    | some fileName, some path =>
      if !env.copied then (.failed 500 none, [])
      else
        let destination := remoteFile request.path fileName
        let args := deviceArgs request.id ["push", path, destination]
        if env.transfer args then (.created destination, [args]) else (.failed 502 none, [args])

/-- Whatever adb is given, it is the one push, into a directory that was accepted. -/
theorem uploadFile_pushes {env : UploadEnv} {request : UploadRequest} {args : List String}
    (h : args ∈ (uploadFile env request).2) : validateUploadDirectory request.path = .ok () ∧
      ∃ fileName temporary, request.fileName = some fileName ∧ env.temporary = some temporary ∧
        args = deviceArgs request.id ["push", temporary, remoteFile request.path fileName] := by
  unfold uploadFile at h
  cases hvalid : validateUploadDirectory request.path with
  | error e =>
    rw [hvalid] at h
    cases h
  | ok u =>
    rw [hvalid] at h
    cases hname : request.fileName with
    | none =>
      rw [hname] at h
      cases h
    | some fileName =>
      cases htemporary : env.temporary with
      | none =>
        rw [hname, htemporary] at h
        cases h
      | some temporary =>
        rw [hname, htemporary] at h
        simp only at h
        split_ifs at h with hcopied htransfer
        · cases h
        · exact ⟨rfl, fileName, temporary, rfl, rfl, List.mem_singleton.mp h⟩
        · exact ⟨rfl, fileName, temporary, rfl, rfl, List.mem_singleton.mp h⟩

/-- The destination leads to where the last name of the file leads from the directory. -/
theorem place_remoteFile (remote fileName : String) : place (remoteFile remote fileName).toList =
    resolve (place remote.toList) (pathNames (baseName fileName.toList)) := by
  rw [remoteFile, String.toList_ofList, place, pathNames_append, pathNames_rdropWhile,
    resolve_append]
  rfl

/-- A destination directly in the directory, and by that in the shared storage. -/
structure StaysIn (directory destination : String) : Prop where
  child : ∃ name, place destination.toList = place directory.toList ++ [name]
  shared : InSharedStorage (place destination.toList)

/-- What is pushed stays in the chosen directory exactly when the last name of the uploaded file is the
name of a file. -/
theorem upload_stays_iff {env : UploadEnv} {request : UploadRequest}
    {fileName temporary destination : String} (hname : request.fileName = some fileName)
    (pushed : deviceArgs request.id ["push", temporary, destination] ∈ (uploadFile env request).2) :
    StaysIn request.path destination ↔
      baseName fileName.toList ∉ [['.'], ['.', '.'], ['/']] := by
  obtain ⟨hvalid, fileName', temporary', hname', -, hargs⟩ := uploadFile_pushes pushed
  rw [hname] at hname'
  cases hname'
  have same : destination = remoteFile request.path fileName := by
    simpa [deviceArgs] using congrArg List.getLast? hargs
  have shared := (validateUploadDirectory_ok_iff.mp hvalid).2
  have child := child_baseName_iff (place request.path.toList) fileName.toList
  rw [← place_remoteFile, ← same] at child
  rw [← show parentName = ['.', '.'] from rfl, ← child]
  constructor
  · intro h
    exact h.child
  · rintro ⟨name, hplace⟩
    refine ⟨⟨name, hplace⟩, ?_⟩
    rw [hplace]
    exact shared.imp (fun h => h.trans (List.prefix_append _ _)) fun h => h.trans (List.prefix_append _ _)

def uploadTo (path fileName : String) : List (List String) :=
  (uploadFile ⟨some "/data/uploads/file-1", true, fun _ => true⟩ ⟨"pixel", path, some fileName⟩).2

theorem upload_stays_photo : StaysIn "/sdcard/Download/" "/sdcard/Download/photo.jpg" ↔
    baseName "photo.jpg".toList ∉ [['.'], ['.', '.'], ['/']] :=
  @upload_stays_iff ⟨some "/data/uploads/file-1", true, fun _ => true⟩
    ⟨"pixel", "/sdcard/Download/", some "photo.jpg"⟩ "photo.jpg" "/data/uploads/file-1" _ rfl
    (by decide)

/-- A file that is called `..` is pushed to the parent of the shared storage, which is the root. -/
theorem upload_to_parent : validateUploadDirectory "/sdcard" = .ok () ∧
    baseName "..".toList = "..".toList ∧
    uploadTo "/sdcard" ".." = [["-s", "pixel", "push", "/data/uploads/file-1", "/sdcard/.."]] ∧
    place "/sdcard/..".toList = [] ∧ ¬StaysIn "/sdcard" "/sdcard/.." := by
  have root : place "/sdcard/..".toList = [] := by decide
  refine ⟨by decide, by decide, by decide, root, ?_⟩
  intro h
  obtain ⟨name, hname⟩ := h.child
  rw [root] at hname
  simp at hname

end AdbControl.Server
