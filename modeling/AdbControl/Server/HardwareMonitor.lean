import AdbControl.Framework.Keyed
import AdbControl.Framework.Run
import AdbControl.Framework.Threads

namespace AdbControl.Server.Hardware

open Framework

/-- A task, as far as it is saved; as a saved status it tells what is to be resumed. -/
structure Status where
  deviceId : String
  running : Bool
  metrics : List String
  deriving DecidableEq, Repr

/-- The tasks of a manager: all that have been made, and which of them a device has. -/
structure Monitors where
  tasks : List Status
  current : Keyed String Nat

namespace Monitors

def new : Monitors := ⟨[], ∅⟩

def taskOf (m : Monitors) (deviceId : String) : Option Status :=
  match m.current[deviceId]? with
  | none => none
  | some i => m.tasks[i]?

def isRunning (m : Monitors) (deviceId : String) : Bool :=
  match m.taskOf deviceId with
  | none => false
  | some task => task.running

/-- What `Start` does under the lock, unless the device's task is running. -/
def start (m : Monitors) (deviceId : String) (metrics : List String) : Monitors :=
  ⟨m.tasks ++ [⟨deviceId, true, metrics⟩], m.current.insert deviceId m.tasks.length⟩

/-- What `Stop` does to the task that it has found. -/
def halt (m : Monitors) (i : Nat) : Monitors :=
  { m with tasks := m.tasks.modify i fun task => { task with running := false } }

/-- What the snapshot of a device's task adds to the saved ones. -/
def saved (m : Monitors) (deviceId : String) : List Status :=
  match m.taskOf deviceId with
  | none => []
  | some task => if task.running then [task] else []

/-- The `Start` calls of `EnablePersistence`, one after the other. -/
def resume (m : Monitors) (saved : List Status) : Monitors :=
  saved.foldl (fun m status =>
    if status.running ∧ status.deviceId ≠ "" ∧ m.isRunning status.deviceId = false then
      m.start status.deviceId status.metrics
    else m) m

end Monitors

/-- The directory of the state path: files by what they contain, and which of them has the
temporary name and which the path itself. -/
structure Disk where
  inodes : List (List UInt8)
  temporary : Option Nat
  file : Option Nat

namespace Disk

/-- The temporary file is opened: it is made, or emptied. -/
def create (disk : Disk) : Disk × Nat :=
  match disk.temporary with
  | some i => ({ disk with inodes := disk.inodes.set i [] }, i)
  | none => ({ disk with
      inodes := disk.inodes ++ [[]], temporary := some disk.inodes.length }, disk.inodes.length)

/-- A write from the beginning of a file leaves what is behind its end. -/
def write (disk : Disk) (i : Nat) (content : List UInt8) : Disk :=
  { disk with inodes := disk.inodes.modify i fun old => content ++ old.drop content.length }

def rename (disk : Disk) : Option Disk :=
  disk.temporary.map fun i => { disk with file := some i, temporary := none }

def content (disk : Disk) : Option (List UInt8) :=
  match disk.file with
  | none => none
  | some i => disk.inodes[i]?

end Disk

/-- `EnablePersistence` of a new manager. -/
def enablePersistence (unmarshal : List UInt8 → Option (List Status)) (disk : Disk) : Monitors :=
  match disk.content with
  | none => .new
  | some content =>
    match unmarshal content with
    | none => .new
    | some saved => Monitors.new.resume saved

/-- How far a call has come; `persist` is the end of `Start` and of `Stop`. -/
inductive CallPc
  | starting (deviceId : String) (metrics : List String)
  | stopping (deviceId : String)
  | halting (task : Nat)
  | persisting
  /-- under the read lock, with the devices whose tasks are still to be looked at -/
  | listing (left : List String) (listed : List Status)
  | opening (listed : List Status)
  | writing (inode : Nat) (listed : List Status)
  | replacing (listed : List Status)
  | returned (failed : Bool)

structure MonitorState where
  monitors : Monitors
  disk : Disk
  calls : List CallPc

inductive MonitorAct
  | start (deviceId : String) (metrics : List String)
  | stop (deviceId : String)
  /-- `pick` is the next entry of the map that is listed; `ok` tells whether a file operation
  succeeds -/
  | go (k : Nat) (pick : Nat) (ok : Bool)

def CallPc.isListing : CallPc → Bool
  | .listing _ _ => true
  | _ => false

namespace MonitorState

variable (marshal : List Status → List UInt8)

/-- A manager with a state path, before any call. -/
def start : MonitorState := ⟨.new, ⟨[], none, none⟩, []⟩

/-- The next step of a call. -/
def advance (s : MonitorState) (pick : Nat) (ok : Bool) : CallPc → Monitors × Disk × CallPc
  | .starting deviceId metrics =>
    -- the lock is not to be had while a snapshot is taken
    if s.calls.any CallPc.isListing then (s.monitors, s.disk, .starting deviceId metrics)
    else if s.monitors.isRunning deviceId then (s.monitors, s.disk, .returned false)
    else (s.monitors.start deviceId metrics, s.disk, .persisting)
  | .stopping deviceId =>
    match s.monitors.current[deviceId]? with
    | none => (s.monitors, s.disk, .returned false)
    | some i => (s.monitors, s.disk, .halting i)
  | .halting i => (s.monitors.halt i, s.disk, .persisting)
  | .persisting => (s.monitors, s.disk, .listing s.monitors.current.keys [])
  | .listing left listed =>
    match left[pick % left.length]? with
    | none => (s.monitors, s.disk, .opening listed)
    | some deviceId =>
      (s.monitors, s.disk, .listing (left.erase deviceId) (listed ++ s.monitors.saved deviceId))
  | .opening listed =>
    if ok then (s.monitors, s.disk.create.1, .writing s.disk.create.2 listed)
    else (s.monitors, s.disk, .returned true)
  | .writing inode listed =>
    if ok then (s.monitors, s.disk.write inode (marshal listed), .replacing listed)
    else (s.monitors, s.disk, .returned true)
  | .replacing _ =>
    match s.disk.rename with
    | none => (s.monitors, s.disk, .returned true)
    | some disk =>
      if ok then (s.monitors, disk, .returned false) else (s.monitors, s.disk, .returned true)
  | .returned failed => (s.monitors, s.disk, .returned failed)

def step (s : MonitorState) : MonitorAct → MonitorState
  | .start deviceId metrics => { s with calls := s.calls ++ [.starting deviceId metrics] }
  | .stop deviceId => { s with calls := s.calls ++ [.stopping deviceId] }
  | .go k pick ok =>
    match s.calls[k]? with
    | none => s
    | some pc =>
      let next := s.advance marshal pick ok pc
      ⟨next.1, next.2.1, s.calls.set k next.2.2⟩

end MonitorState

end AdbControl.Server.Hardware
