import AdbControl.Framework.History
import AdbControl.Server.FileHandlers
import AdbControl.Web.DeviceFiles

namespace AdbControl.Web

open Framework
open AdbControl.Server (FileAnswer FileEntry FileEnv FileRequest parseFileListing)

/-- What `trim` of JavaScript takes away: white space and the ends of lines. -/
def isScriptSpace (c : Char) : Bool :=
  c.toNat ∈ [9, 10, 11, 12, 13, 32, 0xA0, 0x1680, 0x2028, 0x2029, 0x202F, 0x205F, 0x3000, 0xFEFF] ||
    (0x2000 ≤ c.toNat && c.toNat ≤ 0x200A)

def trimScript (text : String) : String :=
  String.ofList ((text.toList.dropWhile isScriptSpace).rdropWhile isScriptSpace)

/-- A call of the API, whether its answer is still awaited, and whether `createFolder` ends with it. -/
structure PanelCall where
  request : FileRequest
  awaited : Bool
  ends : Bool

structure FilePanel where
  currentPath : String
  entries : List FileEntry
  loading : Bool
  creating : Bool
  newFolderName : String
  pendingDelete : Option FileEntry
  calls : List PanelCall

/-- The entries are numbered as they are shown, and the calls as they were made. An answer comes with how
the server fared, unless the call did not reach it, and may be lost on the way back. -/
inductive PanelAct
  | refresh
  | up
  | segment (index : Nat)
  | openEntry (index : Nat)
  | upload (fileName : String)
  | typeName (text : String)
  | createFolder
  | askDelete (index : Nat)
  | cancelDelete
  | removePending
  | answer (k : Nat) (env : Option FileEnv) (received : Bool)

namespace FilePanel

def call (s : FilePanel) (request : FileRequest) (ends : Bool) : FilePanel :=
  { s with calls := s.calls ++ [⟨request, true, ends⟩] }

def load (s : FilePanel) (path : String) (ends : Bool) : FilePanel :=
  { s with loading := true }.call (.files (normalizeRemotePath path)) ends

def mounted : FilePanel :=
  FilePanel.load ⟨"/sdcard", [], false, false, "", none, []⟩ "/sdcard" false

/-- The rest of what made the call -/
def settle (s : FilePanel) (call : PanelCall) : FileAnswer → FilePanel
  | .listing path entries =>
    { s with currentPath := normalizeRemotePath path, entries := entries, loading := false,
             creating := s.creating && !call.ends }
  | .done =>
    match call.request with
    | .createDirectory _ => { s with newFolderName := "" }.load s.currentPath true
    | _ => s.load s.currentPath false
  | .failed _ _ =>
    match call.request with
    | .files _ => { s with loading := false, creating := s.creating && !call.ends }
    | .createDirectory _ => { s with creating := false }
    | _ => s

section

variable (deviceID : String) (localeCompare : String → String → Int)

/-- The call that settles, its answer, and the commands that adb was given -/
def settles (s : FilePanel) (k : Nat) (env : Option FileEnv) (received : Bool) :
    Option (PanelCall × FileAnswer × List (List String)) :=
  match s.calls[k]? with
  | none => none
  | some call =>
    if !call.awaited then none
    else
      let served := env.elim (FileAnswer.failed 0 none, []) fun env => call.request.serve deviceID env
      some (call, if received then served.1 else .failed 0 none, served.2)

def sortedEntries (s : FilePanel) : List FileEntry := sortFileEntries localeCompare s.entries

def createFolder (s : FilePanel) : FilePanel :=
  let name := trimScript s.newFolderName
  if s.creating ∨ name = "" ∨ '/' ∈ name.toList ∨ '\\' ∈ name.toList then s
  else { s with creating := true }.call (.createDirectory (joinRemotePath s.currentPath name)) false

def step (s : FilePanel) : PanelAct → FilePanel
  | .refresh => if s.loading then s else s.load s.currentPath false
  | .up => if s.loading then s else s.load (parentRemotePath s.currentPath) false
  | .segment index =>
    match (pathSegments s.currentPath)[index]? with
    | none => s
    | some segment => s.load segment.path false
  | .openEntry index =>
    match (s.sortedEntries localeCompare)[index]? with
    | none => s
    | some entry =>
      if canOpenEntry entry && !s.loading then s.load (resolveOpenPath s.currentPath entry) false else s
  | .upload fileName => s.call (.uploadFile s.currentPath fileName) false
  | .typeName text => { s with newFolderName := text }
  | .createFolder => s.createFolder
  | .askDelete index =>
    match (s.sortedEntries localeCompare)[index]? with
    | none => s
    | some entry => { s with pendingDelete := some entry }
  | .cancelDelete => { s with pendingDelete := none }
  | .removePending =>
    match s.pendingDelete with
    | none => s
    | some entry => { s with pendingDelete := none }.call (.deleteFile entry.path) false
  | .answer k env received =>
    match s.settles deviceID k env received with
    | none => s
    | some (call, answer, _) =>
      { s with calls := s.calls.set k { call with awaited := false } }.settle call answer

/-- The calls that an act makes -/
def requests (s : FilePanel) (a : PanelAct) : List FileRequest :=
  ((s.step deviceID localeCompare a).calls.drop s.calls.length).map PanelCall.request

end

end FilePanel

inductive PanelNote
  | asked (entry : FileEntry)
  | ran (request : FileRequest) (args : List String)
  | listed (path : String) (entries : List FileEntry)
  | requested (request : FileRequest)

namespace FilePanel

variable (deviceID : String) (localeCompare : String → String → Int)

/-- What is asked, and what is settled with an act -/
def effects (s : FilePanel) : PanelAct → List PanelNote
  | .askDelete index => ((s.sortedEntries localeCompare)[index]?.map PanelNote.asked).toList
  | .answer k env received =>
    match s.settles deviceID k env received with
    | none => []
    | some (call, answer, commands) =>
      commands.map (PanelNote.ran call.request) ++
        match answer with
        | .listing path entries => [.listed path entries]
        | _ => []
  | _ => []

def notes (s : FilePanel) (a : PanelAct) : List PanelNote :=
  s.effects deviceID localeCompare a ++ (s.requests deviceID localeCompare a).map .requested

end FilePanel

def PanelNote.listing? : PanelNote → Option (String × List FileEntry)
  | listed path entries => some (path, entries)
  | _ => none

/-- The listing that arrived last, and at first an empty one of the shared storage -/
def lastListed (h : List PanelNote) : String × List FileEntry :=
  (h.filterMap PanelNote.listing?).getLast?.getD ("/sdcard", [])

end AdbControl.Web
