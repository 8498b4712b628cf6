import AdbControl.Companion.FeatureDispatcher
import AdbControl.Framework.Run

namespace AdbControl.Companion

open Framework

structure PendingConnectionConfig where
  endpoint : String
  deviceId : String
  serverName : String
  certificateDer : List UInt8
  deriving DecidableEq, Repr

/-- What a start of the service brings along; a restart by Android brings nothing. -/
structure StartIntent where
  action : Option String
  endpoint : Option String
  host : Option String
  port : Option Int
  deviceId : Option String
  serverName : Option String
  certificateDerBase64 : Option String
  deriving DecidableEq, Repr

/-- The phone that the service runs on. -/
structure CompanionPhone where
  androidId : Option String
  model : Option String
  /-- `Base64.decode`, which throws on what is no Base64. -/
  decodeBase64 : String → Option (List UInt8)

def ACTION_CONFIGURE_CONNECTION : String := "com.adbcontrol.companion.CONFIGURE_CONNECTION"

def DEFAULT_SERVER_NAME : String := "adbcontrol.local"

def MAX_RECONNECT_ATTEMPTS : Nat := 60

def buildEndpoint (host : Option String) (port : Int) : Option String :=
  match host with
  | some host =>
    if isNotBlank host ∧ 1 ≤ port ∧ port ≤ 65535 then
      some ("quic://" ++ host ++ ":" ++ toString port)
    else none
  | none => none

namespace CompanionPhone

def defaultDeviceId (phone : CompanionPhone) : String :=
  (phone.androidId.filter isNotBlank).getD (phone.model.getD "android-companion")

def decodeCertificate (phone : CompanionPhone) (base64 : String) : Option (List UInt8) :=
  (phone.decodeBase64 base64).filter (!·.isEmpty)

/-- The configuration that `onStartCommand` takes from a `CONFIGURE_CONNECTION`. -/
def configured (phone : CompanionPhone) (intent : StartIntent) : Option PendingConnectionConfig :=
  let endpoint := intent.endpoint.or (buildEndpoint intent.host (intent.port.getD (-1)))
  let deviceId := intent.deviceId.getD phone.defaultDeviceId
  let serverName := intent.serverName.getD DEFAULT_SERVER_NAME
  match endpoint, intent.certificateDerBase64.bind phone.decodeCertificate with
  | some endpoint, some certificateDer =>
    if isNotBlank endpoint then some ⟨endpoint, deviceId, serverName, certificateDer⟩ else none
  | _, _ => none

end CompanionPhone

/-- The saved connection, kept in fields of the service. -/
structure SavedConnection where
  endpoint : Option String
  deviceId : Option String
  serverName : Option String
  certificateDer : Option (List UInt8)
  deriving DecidableEq, Repr

/-- What the preferences hold of a connection. -/
structure ConnectionPreferences where
  endpoint : Option String
  deviceId : Option String
  serverName : Option String
  certificateDerBase64 : Option String
  deriving DecidableEq, Repr

namespace SavedConnection

/-- `loadConnectionConfig`. -/
def load (phone : CompanionPhone) (prefs : ConnectionPreferences) : SavedConnection :=
  ⟨prefs.endpoint, prefs.deviceId, some (prefs.serverName.getD DEFAULT_SERVER_NAME),
    prefs.certificateDerBase64.bind phone.decodeCertificate⟩

/-- `saveConnectionConfig`. -/
def save (config : PendingConnectionConfig) : SavedConnection :=
  ⟨some config.endpoint, some config.deviceId, some config.serverName, some config.certificateDer⟩

/-- The configuration that `reconnectFromSavedConfig` finds. -/
def config (phone : CompanionPhone) (saved : SavedConnection) : Option PendingConnectionConfig :=
  match saved.endpoint, saved.certificateDer with
  | some endpoint, some certificate =>
    some ⟨endpoint, saved.deviceId.getD phone.defaultDeviceId,
      saved.serverName.getD DEFAULT_SERVER_NAME, certificate⟩
  | _, _ => none

@[simp] theorem config_save (phone : CompanionPhone) (config : PendingConnectionConfig) :
    (save config).config phone = some config := rfl

end SavedConnection

/-- A `NativeQuicTransport`; its number tells the object. -/
structure ConnectionTransport where
  id : Nat
  config : PendingConnectionConfig
  deriving DecidableEq, Repr

/-- What `NativeQuicTransport.connect` requires before it calls the engine. -/
def ConnectionTransport.requires (t : ConnectionTransport) : Bool :=
  "quic://".toList.isPrefixOf t.config.endpoint.toList && isNotBlank t.config.serverName &&
    !t.config.certificateDer.isEmpty

/-- A reconnect that waits for its delay to pass. -/
structure ReconnectTimer where
  id : Nat
  config : PendingConnectionConfig
  deriving DecidableEq, Repr

/-- A receive loop, in the generation that it was started for. -/
structure ReceiveLoop where
  transport : ConnectionTransport
  generation : Nat
  deriving DecidableEq, Repr

/-- What the other threads post to the main looper. -/
inductive MainMessage
  | failed (config : PendingConnectionConfig)
  | lost (loop : ReceiveLoop)
  deriving DecidableEq, Repr

/-- Where the main thread is. -/
inductive MainPlace
  /-- Between two messages. -/
  | idle
  /-- At the `compareAndSet` of `startPendingConnectionIfIdle`. -/
  | starting
  /-- In `closeCurrentTransport`, before the generation is advanced. -/
  | closing
  /-- In `closeCurrentTransport`, before `transport` is cleared. -/
  | detaching
  /-- In `scheduleReconnect`, before the attempts are compared. -/
  | scheduling (config : PendingConnectionConfig)
  /-- In `scheduleReconnect`, before the attempts are read to be counted up. -/
  | counting (config : PendingConnectionConfig)
  /-- In `scheduleReconnect`, with the attempts it has read. -/
  | arming (config : PendingConnectionConfig) (attempts : Nat)
  deriving DecidableEq, Repr

/-- Where the connection executor's thread is. -/
inductive ConnectPlace
  | idle
  /-- At the head of the loop, before the slot is read. -/
  | reading
  /-- Before the slot is cleared. -/
  | clearing (config : PendingConnectionConfig)
  /-- In `closeCurrentTransport`, before the generation is advanced. -/
  | closing (config : PendingConnectionConfig)
  /-- In `closeCurrentTransport`, before `transport` is cleared. -/
  | detaching (config : PendingConnectionConfig)
  /-- Before the native `connect`. -/
  | dialing (config : PendingConnectionConfig)
  /-- Before the first envelopes are sent. -/
  | greeting (transport : ConnectionTransport)
  /-- Before the receive loop is started. -/
  | launching (transport : ConnectionTransport)
  /-- Before the attempts are set back. -/
  | connected
  /-- Before the slot is looked at after a failure. -/
  | failed (config : PendingConnectionConfig)
  /-- Before the failure is posted. -/
  | posting (config : PendingConnectionConfig)
  /-- Before `connectionInProgress` is given up. -/
  | releasing
  /-- Before the slot is looked at once more. -/
  | rechecking
  /-- At the `compareAndSet` of `startPendingConnectionIfIdle`. -/
  | starting
  deriving DecidableEq, Repr

/-- After the slot has been read. -/
def ConnectPlace.ofSlot : Option PendingConnectionConfig → ConnectPlace
  | some config => clearing config
  | none => releasing

/-- The configuration whose slot is cleared next. -/
def ConnectPlace.clears : ConnectPlace → Option PendingConnectionConfig
  | clearing config => some config
  | _ => none

/-- The reconnect that is posted next. -/
def MainPlace.arms : MainPlace → Option PendingConnectionConfig
  | arming config _ => some config
  | _ => none

/-- `QuicCompanionService`: its fields, the threads' places and their queues. -/
structure CompanionService where
  saved : SavedConnection
  pendingConnectionConfig : Option PendingConnectionConfig
  connectionInProgress : Bool
  connectionGeneration : Nat
  reconnectAttempts : Nat
  reconnectRunnable : Option Nat
  transport : Option ConnectionTransport
  main : MainPlace
  executor : ConnectPlace
  /-- The tasks that wait for the connection executor. -/
  tasks : Nat
  /-- The receive loops: the first runs, the others wait for the receive executor. -/
  loops : List ReceiveLoop
  posted : List MainMessage
  timers : List ReconnectTimer
  /-- The number of the next transport or timer. -/
  fresh : Nat
  /-- The configuration received last has come to an attempt, where one has been received. -/
  tried : Bool
  /-- Nothing has asked for a connection yet, or the attempts were used up. -/
  resting : Bool
  deriving DecidableEq, Repr

/-- What happens next: a message on the main looper, or one step of a thread. -/
inductive ServiceStep
  | onStartCommand (intent : StartIntent)
  /-- The oldest posted message. -/
  | message
  | timer (id : Nat)
  | main
  /-- The connection executor takes its next task. -/
  | task
  /-- The connection executor's thread; `ok` says whether the native call succeeds. -/
  | executor (ok : Bool)
  /-- The running receive loop throws. -/
  | loopThrows
  /-- The running receive loop finds that it is not current. -/
  | loopEnds
  deriving DecidableEq, Repr

namespace CompanionService

def onCreate (phone : CompanionPhone) (prefs : ConnectionPreferences) : CompanionService where
  saved := .load phone prefs
  pendingConnectionConfig := none
  connectionInProgress := false
  connectionGeneration := 0
  reconnectAttempts := 0
  reconnectRunnable := none
  transport := none
  main := .idle
  executor := .idle
  tasks := 0
  loops := []
  posted := []
  timers := []
  fresh := 0
  tried := true
  resting := true

def cancelReconnect (s : CompanionService) : CompanionService :=
  { s with
    timers := s.timers.filter (fun t => s.reconnectRunnable ≠ some t.id)
    reconnectRunnable := none }

/-- `connectWithRetry`, up to `startPendingConnectionIfIdle`. Of what it touches the other threads
write `pendingConnectionConfig` only. -/
def connectWithRetry (s : CompanionService) (config : PendingConnectionConfig) :
    CompanionService :=
  { s.cancelReconnect with
    pendingConnectionConfig := some config
    main := .starting
    resting := false }

/-- The `compareAndSet` of `startPendingConnectionIfIdle`, and the task that it queues. -/
def startPendingConnectionIfIdle (s : CompanionService) : CompanionService :=
  if s.connectionInProgress then s
  else { s with connectionInProgress := true, tasks := s.tasks + 1 }

def onStartCommand (phone : CompanionPhone) (intent : StartIntent) (s : CompanionService) :
    CompanionService :=
  if intent.action = some ACTION_CONFIGURE_CONNECTION then
    match phone.configured intent with
    | some config =>
      { s with saved := .save config, reconnectAttempts := 0, tried := false }.connectWithRetry
        config
    | none => s
  else
    match s.saved.config phone with
    | some config => s.connectWithRetry config
    | none => s

/-- The loop is the one that the service receives from. -/
def isCurrent (s : CompanionService) (loop : ReceiveLoop) : Bool :=
  loop.generation = s.connectionGeneration && s.transport = some loop.transport

def handleMessage (s : CompanionService) : CompanionService :=
  match s.posted with
  | [] => s
  | .failed config :: posted => { s with posted := posted, main := .scheduling config }
  | .lost loop :: posted =>
    if s.isCurrent loop then { s with posted := posted, main := .closing }
    else { s with posted := posted }

def timerFires (s : CompanionService) (id : Nat) : CompanionService :=
  match s.timers.find? (·.id = id) with
  | some timer =>
    { s with timers := s.timers.erase timer, reconnectRunnable := none }.connectWithRetry
      timer.config
  | none => s

/-- The main thread goes on with the message it is at. -/
def mainStep (phone : CompanionPhone) (s : CompanionService) : CompanionService :=
  match s.main with
  | .idle => s
  | .starting => { s.startPendingConnectionIfIdle with main := .idle }
  | .closing => { s with connectionGeneration := s.connectionGeneration + 1, main := .detaching }
  | .detaching =>
    { s with transport := none, main := (s.saved.config phone).elim .idle .scheduling }
  | .scheduling config =>
    if s.reconnectAttempts ≥ MAX_RECONNECT_ATTEMPTS then { s with main := .idle, resting := true }
    else { s with main := .counting config }
  | .counting config => { s with main := .arming config s.reconnectAttempts }
  | .arming config attempts =>
    -- an earlier runnable is overwritten, and stays with the handler
    { s with
      reconnectAttempts := attempts + 1
      reconnectRunnable := some s.fresh
      timers := s.timers ++ [⟨s.fresh, config⟩]
      fresh := s.fresh + 1
      main := .idle }

def takeTask (s : CompanionService) : CompanionService :=
  if s.executor = .idle ∧ 0 < s.tasks then { s with tasks := s.tasks - 1, executor := .reading }
  else s

/-- The connection executor's thread goes on with its task. -/
def executorStep (phone : CompanionPhone) (ok : Bool) (s : CompanionService) : CompanionService :=
  match s.executor with
  | .idle => s
  | .reading => { s with executor := .ofSlot s.pendingConnectionConfig }
  | .clearing config =>
    { s with
      pendingConnectionConfig := none
      executor := .closing config
      tried := s.tried || s.saved.config phone = some config }
  | .closing config =>
    { s with connectionGeneration := s.connectionGeneration + 1, executor := .detaching config }
  | .detaching config => { s with transport := none, executor := .dialing config }
  | .dialing config =>
    let transport : ConnectionTransport := ⟨s.fresh, config⟩
    if ok && transport.requires then
      { s with transport := some transport, fresh := s.fresh + 1, executor := .greeting transport }
    else { s with executor := .failed config }
  | .greeting transport =>
    { s with executor := if ok then .launching transport else .failed transport.config }
  | .launching transport =>
    { s with
      connectionGeneration := s.connectionGeneration + 1
      loops := s.loops ++ [⟨transport, s.connectionGeneration + 1⟩]
      executor := .connected }
  | .connected => { s with reconnectAttempts := 0, executor := .reading }
  | .failed config =>
    { s with executor := if s.pendingConnectionConfig = none then .posting config else .reading }
  | .posting config => { s with posted := s.posted ++ [.failed config], executor := .reading }
  | .releasing => { s with connectionInProgress := false, executor := .rechecking }
  | .rechecking =>
    { s with executor := if s.pendingConnectionConfig = none then .idle else .starting }
  | .starting => { s.startPendingConnectionIfIdle with executor := .idle }

def step (phone : CompanionPhone) (s : CompanionService) : ServiceStep → CompanionService
  | .onStartCommand intent => if s.main = .idle then s.onStartCommand phone intent else s
  | .message => if s.main = .idle then s.handleMessage else s
  | .timer id => if s.main = .idle then s.timerFires id else s
  | .main => s.mainStep phone
  | .task => s.takeTask
  | .executor ok => s.executorStep phone ok
  | .loopThrows =>
    match s.loops with
    | [] => s
    | loop :: loops => { s with loops := loops, posted := s.posted ++ [.lost loop] }
  | .loopEnds =>
    match s.loops with
    | [] => s
    | loop :: loops => if s.isCurrent loop then s else { s with loops := loops }

/-- All queued work has run; timers may wait, and a receive loop may run. -/
def Settled (s : CompanionService) : Prop :=
  s.main = .idle ∧ s.executor = .idle ∧ s.tasks = 0 ∧ s.posted = []

/-- A receive loop serves the current transport. -/
def Connected (s : CompanionService) : Prop := ∃ loop ∈ s.loops, s.isCurrent loop = true

instance : DecidablePred Settled := fun _ => inferInstanceAs (Decidable (_ ∧ _))

instance : DecidablePred Connected := fun _ => inferInstanceAs (Decidable (∃ _ ∈ _, _))

end CompanionService

end AdbControl.Companion
