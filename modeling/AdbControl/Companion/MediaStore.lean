import AdbControl.Framework.Keyed
import AdbControl.Framework.Path
import AdbControl.Companion.Protocol

namespace AdbControl.Companion

open Framework

/-- The directories that the media store made under its root and the files in them; the root
itself has the empty name. The file system is taken to do what it is asked. -/
structure MediaFs where
  dirs : Keyed String (Keyed String (List UInt8))

namespace MediaFs

/-- An empty root. -/
def empty : MediaFs := ⟨∅⟩

def files (fs : MediaFs) (dir : String) : Keyed String (List UInt8) := (fs.dirs[dir]?).getD ∅

/-- `read_dir`: the files of a directory, and in the root the directories as well. -/
def entries (fs : MediaFs) (dir : String) : List String :=
  (fs.files dir).keys ++ if dir = "" then fs.dirs.keys.filter (fun d => d ≠ "") else []

def exists? (fs : MediaFs) (dir : String) : Bool := dir == "" || fs.dirs.contains dir

def createDirAll (fs : MediaFs) (dir : String) : MediaFs := ⟨fs.dirs.insert dir (fs.files dir)⟩

def write (fs : MediaFs) (dir file : String) (bytes : List UInt8) : MediaFs :=
  ⟨fs.dirs.insert dir ((fs.files dir).insert file bytes)⟩

end MediaFs

structure StoredMediaChunk where
  sessionId : String
  chunkIndex : Nat
  path : String
  sizeBytes : Nat
  deriving DecidableEq, Repr

def requiredString (payload : Value) (key : String) : Except AppError String :=
  match (payload.get? key).bind Value.asStr with
  | some s => .ok s
  | none =>
    .error ⟨"COMPANION_MEDIA_PAYLOAD_INVALID",
      "Media streamChunk payload is missing string field " ++ key ++ ".", "companion.media_store",
      false, none⟩

/-- ASCII letters, digits, `-` and `_` stay, anything else becomes `_`. -/
def safePathSegment (value : String) : String :=
  String.ofList (value.toList.map
    (fun c => if isAsciiAlphanumeric c || c == '-' || c == '_' then c else '_'))

/-- As many chunks as the directory of the session lists. -/
def nextChunkIndex (fs : MediaFs) (sessionId : String) : Nat :=
  let dir := safePathSegment sessionId
  if fs.exists? dir then (fs.entries dir).countP (fun name => startsWith name "chunk-") else 0

/-- `chunk-{:020}.bin`. -/
def chunkFileName (index : Nat) : String :=
  String.ofList ("chunk-".toList ++ (Nat.toDigits 10 index).leftpad 20 '0' ++ ".bin".toList)

structure CompanionMediaStore where
  rootDir : String

section

-- the standard base64 decoder
variable (decodeBase64 : String → Option (List UInt8))

/-- The session and the bytes of a stream chunk; other kinds hold none. -/
def mediaChunk (envelope : QuicEnvelope) : Except AppError (Option (String × List UInt8)) :=
  if envelope.kind ≠ .streamChunk then .ok none
  else do
    let sessionId ← requiredString envelope.payload "sessionId"
    let encoding ← requiredString envelope.payload "encoding"
    if encoding ≠ "base64" then
      .error ⟨"COMPANION_MEDIA_ENCODING_UNSUPPORTED",
        "Core media store only accepts base64 media chunks in JSON envelopes.",
        "companion.media_store", false, none⟩
    else
      let data ← requiredString envelope.payload "data"
      match decodeBase64 data with
      | none =>
        .error ⟨"COMPANION_MEDIA_CHUNK_BASE64_INVALID",
          "Core failed to decode base64 media chunk.", "companion.media_store", false, none⟩
      | some bytes => .ok (some (sessionId, bytes))

def CompanionMediaStore.storeEnvelope (store : CompanionMediaStore) (fs : MediaFs)
    (envelope : QuicEnvelope) : MediaFs × Except AppError (Option StoredMediaChunk) :=
  match mediaChunk decodeBase64 envelope with
  | .error e => (fs, .error e)
  | .ok none => (fs, .ok none)
  | .ok (some (sessionId, bytes)) =>
    let chunkIndex := nextChunkIndex fs sessionId
    let dir := safePathSegment sessionId
    let file := chunkFileName chunkIndex
    let path := joinPath (joinPath store.rootDir dir) file
    ((fs.createDirAll dir).write dir file bytes,
      .ok (some ⟨sessionId, chunkIndex, path, bytes.length⟩))

end

end AdbControl.Companion
