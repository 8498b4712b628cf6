import AdbControl.Framework.Keyed
import AdbControl.Framework.Run
import AdbControl.Framework.Threads
import AdbControl.ScrcpyServer

namespace AdbControl

open Framework

inductive ChildState
  | running | exited | reaped
  deriving DecidableEq

/-- A process that was started for a session, as the system keeps it until it is waited for -/
structure Child where
  session : String
  state : ChildState

/-- How far a call has come. From `replacing` to its answer, and from `looking`, a call has the registry
locked. -/
inductive ProcessCall
  -- `start_scrcpy`
  | refused (error : AppError)
  | spawned (session : String) (child : Nat)
  | replacing (previous child : Nat)
  | awaiting (previous child : Nat)
  | started (child : Nat)
  -- `stop_scrcpy`
  | stopping (session : String)
  | looking (child : Nat)
  | killing (child : Nat)
  | reaping (child : Nat)
  | stopped (child : Option Nat)
  | lost (child : Nat)

namespace ProcessCall

/-- The child that only this call can still wait for, or that the call gave up -/
def child? : ProcessCall → Option Nat
  | spawned _ child | looking child | killing child | reaping child | lost child => some child
  | replacing previous _ | awaiting previous _ => some previous
  | _ => none

def inside : ProcessCall → Bool
  | replacing .. | awaiting .. | looking _ | killing _ | reaping _ => true
  | _ => false

/-- The call has returned. -/
def answered : ProcessCall → Bool
  | refused _ | started _ | stopped _ | lost _ => true
  | _ => false

def startFailed : AppError :=
  ⟨"SCRCPY_PROCESS_SPAWN_FAILED", "Failed to start the scrcpy ADB process.", "adb.scrcpy", true,
    some "Verify the selected device and installed Companion APK."⟩

/-- What the call returns: the child it started, or whether there was one to stop -/
def answer : ProcessCall → Option (Except AppError (Nat ⊕ Bool))
  | refused error => some (.error error)
  | started child => some (.ok (.inl child))
  | stopped child => some (.ok (.inr child.isSome))
  | lost _ => some (.error ⟨"SCRCPY_PROCESS_STOP_FAILED", "Failed to stop the scrcpy ADB process.",
      "adb.scrcpy", true, none⟩)
  | _ => none

end ProcessCall

/-- The children spawned so far, the registry of those that a session has, its mutex, and all calls -/
structure AdbProcessManager where
  spawned : List Child
  children : Keyed String Nat
  locked : Bool
  calls : List ProcessCall

/-- A call begins, with whether a spawn succeeds; a call goes on, with whether what it asks of the system
succeeds; or a child exits. -/
inductive ProcessAct
  | startScrcpy (config : ScrcpyServerConfig) (spawns : Bool)
  | stopScrcpy (session : String)
  | go (call : Nat) (works : Bool)
  | exits (child : Nat)
  | drop

namespace AdbProcessManager

def default : AdbProcessManager := ⟨[], ∅, false, []⟩

def begin (s : AdbProcessManager) (call : ProcessCall) : AdbProcessManager :=
  { s with calls := s.calls ++ [call] }

def move (s : AdbProcessManager) (k : Nat) (call : ProcessCall) : AdbProcessManager :=
  { s with calls := s.calls.set k call }

def setState (s : AdbProcessManager) (child : Nat) (state : ChildState) : AdbProcessManager :=
  { s with spawned := s.spawned.modify child fun c => { c with state := state } }

def hasExited (s : AdbProcessManager) (child : Nat) : Bool :=
  (s.spawned[child]?.map fun c => decide (c.state = .exited)).getD false

/-- The child that has exited is waited for, and the registry is left. -/
def reap (s : AdbProcessManager) (k child : Nat) (call : ProcessCall) : AdbProcessManager :=
  { s with spawned := (s.setState child .reaped).spawned, locked := false, calls := s.calls.set k call }

def startScrcpy (s : AdbProcessManager) (config : ScrcpyServerConfig) (spawns : Bool) :
    AdbProcessManager :=
  match buildScrcpyServerArgs config with
  | .error e => s.begin (.refused e)
  | .ok _ =>
    if spawns then
      { s with spawned := s.spawned ++ [⟨config.sessionId, .running⟩],
               calls := s.calls ++ [.spawned config.sessionId s.spawned.length] }
    else s.begin (.refused ProcessCall.startFailed)

/-- The next thing a call does. A call waits while the registry is locked, and for a child until it has
exited. -/
def advance (s : AdbProcessManager) (k : Nat) (works : Bool) : ProcessCall → AdbProcessManager
  | .spawned session child =>
    if s.locked then s
    else
      let children := s.children.insert session child
      match s.children[session]? with
      | none => { s with children := children, calls := s.calls.set k (.started child) }
      | some previous =>
        { s with children := children, locked := true, calls := s.calls.set k (.replacing previous child) }
  -- whether the kill succeeds or not
  | .replacing previous child => s.move k (.awaiting previous child)
  | .awaiting previous child =>
    if s.hasExited previous then s.reap k previous (.started child) else s
  | .stopping session =>
    if s.locked then s
    else
      match s.children[session]? with
      | none => s.move k (.stopped none)
      | some child =>
        { s with children := s.children.erase session, locked := true,
                 calls := s.calls.set k (.looking child) }
  -- `try_wait`, which may fail
  | .looking child =>
    if works && s.hasExited child then s.reap k child (.stopped (some child))
    else s.move k (.killing child)
  | .killing child =>
    if works then s.move k (.reaping child)
    else { s with locked := false, calls := s.calls.set k (.lost child) }
  | .reaping child =>
    if s.hasExited child then s.reap k child (.stopped (some child)) else s
  | _ => s

/-- The drop of the manager, which nothing uses any more: every child of a session is killed and waited
for. -/
def drop (s : AdbProcessManager) : AdbProcessManager :=
  if s.calls.all ProcessCall.answered then
    { s with
      spawned := s.spawned.mapIdx fun p c =>
        if s.children[c.session]? = some p then { c with state := .reaped } else c
      children := ∅ }
  else s

def step (s : AdbProcessManager) : ProcessAct → AdbProcessManager
  | .startScrcpy config spawns => s.startScrcpy config spawns
  | .stopScrcpy session => s.begin (.stopping session)
  | .go k works =>
    match s.calls[k]? with
    | none => s
    | some call => s.advance k works call
  | .exits child =>
    if (s.spawned[child]?.map Child.state) = some .running then s.setState child .exited else s
  | .drop => s.drop

/-- The ways in which a step changes who can wait for a child. -/
inductive Moves (s : AdbProcessManager) : AdbProcessManager → Prop
  | stays : Moves s s
  | begins (call : ProcessCall) (outside : call.inside = false) (nothing : call.child? = none)
      (other : ∀ child, call ≠ .stopped child) : Moves s (s.begin call)
  | spawns (session : String) : Moves s { s with
      spawned := s.spawned ++ [⟨session, .running⟩],
      calls := s.calls ++ [.spawned session s.spawned.length] }
  | exits (child : Nat) (running : (s.spawned[child]?.map Child.state) = some .running) :
      Moves s (s.setState child .exited)
  | registers (k : Nat) (session : String) (child : Nat) (free : s.locked = false)
      (caller : s.calls[k]? = some (.spawned session child)) (unused : s.children[session]? = none) :
      Moves s { s with children := s.children.insert session child,
                       calls := s.calls.set k (.started child) }
  | replaces (k : Nat) (session : String) (child previous : Nat) (free : s.locked = false)
      (caller : s.calls[k]? = some (.spawned session child))
      (used : s.children[session]? = some previous) :
      Moves s { s with children := s.children.insert session child, locked := true,
                       calls := s.calls.set k (.replacing previous child) }
  | misses (k : Nat) (session : String) (caller : s.calls[k]? = some (.stopping session)) :
      Moves s (s.move k (.stopped none))
  | removes (k : Nat) (session : String) (child : Nat) (free : s.locked = false)
      (caller : s.calls[k]? = some (.stopping session)) (used : s.children[session]? = some child) :
      Moves s { s with children := s.children.erase session, locked := true,
                       calls := s.calls.set k (.looking child) }
  | passes (k : Nat) (call next : ProcessCall) (caller : s.calls[k]? = some call)
      (same : next.child? = call.child?) (inside : call.inside = true) (inside' : next.inside = true) :
      Moves s (s.move k next)
  | loses (k child : Nat) (caller : s.calls[k]? = some (.killing child)) :
      Moves s { s with locked := false, calls := s.calls.set k (.lost child) }
  | reaps (k child : Nat) (call next : ProcessCall) (caller : s.calls[k]? = some call)
      (inside : call.inside = true) (holds : call.child? = some child)
      (finished : next = .stopped (some child) ∨ ∃ c, next = .started c) :
      Moves s (s.reap k child next)
  | drops (answered : ∀ call ∈ s.calls, call.answered = true) : Moves s { s with
      spawned := s.spawned.mapIdx fun p c =>
        if s.children[c.session]? = some p then { c with state := .reaped } else c,
      children := ∅ }

variable {s s' : AdbProcessManager}

theorem startScrcpy_moves (s : AdbProcessManager) (config : ScrcpyServerConfig) (spawns : Bool) :
    Moves s (s.startScrcpy config spawns) := by
  have refused (e : AppError) : Moves s (s.begin (.refused e)) :=
    .begins (.refused e) rfl rfl (fun _ h => by cases h)
  rw [startScrcpy]
  split
  · exact refused _
  · split_ifs
    · exact .spawns config.sessionId
    · exact refused _

theorem advance_moves {k : Nat} {call : ProcessCall} (h : s.calls[k]? = some call) (works : Bool) :
    Moves s (s.advance k works call) := by
  cases call with
  | spawned session child =>
    simp only [advance]
    split_ifs with hfree
    · exact .stays
    · cases hused : s.children[session]? with
      | none => exact .registers k session child (Bool.eq_false_iff.mpr hfree) h hused
      | some previous => exact .replaces k session child previous (Bool.eq_false_iff.mpr hfree) h hused
  | replacing previous child => exact .passes k _ _ h rfl rfl rfl
  | awaiting previous child =>
    simp only [advance]
    split_ifs
    · exact .reaps k previous _ _ h rfl rfl (.inr ⟨child, rfl⟩)
    · exact .stays
  | stopping session =>
    simp only [advance]
    split_ifs with hfree
    · exact .stays
    · cases hused : s.children[session]? with
      | none => exact .misses k session h
      | some child => exact .removes k session child (Bool.eq_false_iff.mpr hfree) h hused
  | looking child =>
    simp only [advance]
    split_ifs
    · exact .reaps k child _ _ h rfl rfl (.inl rfl)
    · exact .passes k _ _ h rfl rfl rfl
  | killing child =>
    simp only [advance]
    split_ifs
    · exact .passes k _ _ h rfl rfl rfl
    · exact .loses k child h
  | reaping child =>
    simp only [advance]
    split_ifs
    · exact .reaps k child _ _ h rfl rfl (.inl rfl)
    · exact .stays
  | refused _ | started _ | stopped _ | lost _ => exact .stays

theorem step_moves (s : AdbProcessManager) (a : ProcessAct) : Moves s (s.step a) := by
  cases a with
  | startScrcpy config spawns => exact startScrcpy_moves s config spawns
  | stopScrcpy session => exact .begins (.stopping session) rfl rfl (fun _ h => by cases h)
  | go k works =>
    simp only [step]
    split
    · exact .stays
    next call hcall => exact advance_moves hcall works
  | exits child =>
    simp only [step]
    split_ifs with hrunning
    · exact .exits child hrunning
    · exact .stays
  | drop =>
    simp only [step, drop]
    split_ifs with hall
    · exact .drops (List.all_eq_true.mp hall)
    · exact .stays

end AdbProcessManager

end AdbControl
