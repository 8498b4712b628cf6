import AdbControl.Companion.FeatureDispatcher
import AdbControl.Framework.CleanPath

namespace AdbControl.Companion

open Framework

inductive SandboxEntry
  | file (content : List UInt8)
  | directory
  deriving DecidableEq

/-- What Android and Java say of the paths of the sandbox: its root, the canonical form of a path below
the root, the last name and the relative form of a canonical path, the text of a file's bytes, the
exceptions of reading and writing, and the directories that cannot be made. -/
structure SandboxPaths where
  root : String
  canonical : String → Except Throwable String
  name : String → String
  relative : String → String
  decode : List UInt8 → String
  readFails : String → Option Throwable
  writeFails : String → Option Throwable
  mkdirFails : String → Bool

abbrev SandboxFiles := String → Option SandboxEntry

namespace FileSandboxFeatureHandler

variable (paths : SandboxPaths)

def resolveSandboxFile (context : CompanionCommandContext) : Except Throwable (Option String) :=
  match context.stringArg "path" with
  | none => .ok none
  | some rawPath => do
    let candidate ← paths.canonical rawPath
    pure (if startsWith candidate paths.root then some candidate else none)

def invalidPath (requestId : String) : CompanionCommandResult :=
  .failure requestId "COMPANION_FILE_PATH_INVALID" "文件路径必须是伴侣 App 沙盒内的非空相对路径。"
    "companion.file" false none

def maxBytes (context : CompanionCommandContext) : Int :=
  max 1 (min ((context.intArg "maxBytes").getD (1024 * 1024)) (4 * 1024 * 1024))

def readText (context : CompanionCommandContext) (files : SandboxFiles) :
    Except Throwable CompanionCommandResult := do
  match ← resolveSandboxFile paths context with
  | none => pure (invalidPath context.requestId)
  | some file =>
    match files file with
    | some (.file content) =>
      if maxBytes context < content.length then
        pure (.failure context.requestId "COMPANION_FILE_TOO_LARGE"
          "文件大小超过了请求的 maxBytes 限制。" "companion.file" true
          (some "较大文件请使用底层流式文件传输操作。"))
      else
        match paths.readFails file with
        | some t => .error t
        | none => pure (.success context.requestId [("path", .string (paths.relative file)),
            ("sizeBytes", .number (.posInt content.length)),
            ("text", .string (paths.decode content))])
    | _ => pure (.failure context.requestId "COMPANION_FILE_NOT_FOUND"
        ("沙盒文件不存在：" ++ paths.name file) "companion.file" true none)

/-- Opening a directory for writing throws. -/
def isDirectory (file : String) : Throwable :=
  ⟨.checked, "FileNotFoundException", some (file ++ ": open failed: EISDIR (Is a directory)")⟩

/-- `mkdirs` of the directory with these names, the innermost first: what is missing is made from the
top down, as far as this can be done. -/
def mkdirs (files : SandboxFiles) : List (List Char) → SandboxFiles
  | [] => files
  | name :: above =>
    let directory := String.ofList (rooted (name :: above).reverse)
    if files directory ≠ none then files
    else
      let made := mkdirs files above
      if made (String.ofList (rooted above.reverse)) = some .directory ∧
          paths.mkdirFails directory = false then
        Function.update made directory (some .directory)
      else made

/-- `file.parentFile?.mkdirs()`, where the file has a canonical path. -/
def makeParents (files : SandboxFiles) (file : String) : SandboxFiles :=
  mkdirs paths files (pathNames file.toList).reverse.tail

def writeText (context : CompanionCommandContext) (files : SandboxFiles) :
    Except Throwable CompanionCommandResult × SandboxFiles :=
  match resolveSandboxFile paths context with
  | .error t => (.error t, files)
  | .ok none => (.ok (invalidPath context.requestId), files)
  | .ok (some file) =>
    match context.stringArg "text" with
    | none => (.ok (.failure context.requestId "COMPANION_PARAMS_INVALID"
        "file.write 需要 args.text 参数。" "companion.file" false none), files)
    | some text =>
      let files := makeParents paths files file
      if files file = some .directory then (.error (isDirectory file), files)
      else
        match paths.writeFails file with
        | some t => (.error t, files)
        | none =>
          (.ok (.success context.requestId [("path", .string (paths.relative file)),
            ("sizeBytes", .number (.posInt (utf8Bytes text).length)), ("written", .bool true)]),
            Function.update files file (some (.file (utf8Bytes text))))

def handle (context : CompanionCommandContext) (files : SandboxFiles) :
    Except Throwable CompanionCommandResult × SandboxFiles :=
  if context.operation = "file.read" then (readText paths context files, files)
  else if context.operation = "file.write" then writeText paths context files
  else (.ok (.failure context.requestId "COMPANION_OPERATION_NOT_SUPPORTED"
    ("不支持的文件操作：" ++ context.operation) "companion.file" false none), files)

variable {paths}

/-- Every result is one for the command. -/
theorem handle_requestId {context : CompanionCommandContext} {files : SandboxFiles}
    {result : CompanionCommandResult} (h : (handle paths context files).1 = .ok result) :
    result.requestId = context.requestId := by
  unfold handle at h
  split_ifs at h
  · unfold readText at h
    cases hfile : resolveSandboxFile paths context with
    | error t =>
      rw [hfile] at h
      cases h
    | ok found =>
      rw [hfile] at h
      cases found with
      | none =>
        cases h
        rfl
      | some file =>
        simp only [bind, Except.bind, pure, Except.pure] at h
        repeat' split at h
        all_goals cases h
        all_goals rfl
  · simp only [writeText] at h
    repeat' split at h
    all_goals cases h
    all_goals rfl
  · cases h
    rfl

/-- What exists stays when directories are made. -/
theorem mkdirs_of_ne_none {files : SandboxFiles} {file : String} (h : files file ≠ none)
    (names : List (List Char)) : mkdirs paths files names file = files file := by
  induction names with
  | nil => rfl
  | cons name above ih =>
    simp only [mkdirs]
    split_ifs with hexists hmade
    · rfl
    · rw [Function.update_of_ne, ih]
      rintro rfl
      exact h (not_not.mp hexists)
    · exact ih

/-- A text cannot be written over a directory of the sandbox: this throws what is no
`RuntimeException`. -/
theorem write_directory {context : CompanionCommandContext} {files : SandboxFiles} {file text : String}
    (operation : context.operation = "file.write")
    (hfile : resolveSandboxFile paths context = .ok (some file))
    (htext : context.stringArg "text" = some text) (directory : files file = some .directory) :
    (handle paths context files).1 = .error (isDirectory file) := by
  have read : context.operation ≠ "file.read" := by
    rw [operation]
    decide
  rw [handle, if_neg read, if_pos operation, writeText, hfile]
  have stays : makeParents paths files file file = some .directory := by
    rw [makeParents, mkdirs_of_ne_none (by rw [directory]; nofun), directory]
  simp only [htext, stays, if_true]

end FileSandboxFeatureHandler

end AdbControl.Companion
