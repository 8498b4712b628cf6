import AdbControl.Companion.Ingress

namespace AdbControl.Companion

open Framework

/-- The devices that IPC and remote clients are told about. -/
structure CompanionRegistry where
  devices : List CompanionDevice
  deriving DecidableEq

namespace CompanionRegistry

def default : CompanionRegistry := ⟨[]⟩

def upsertInto (device : CompanionDevice) : List CompanionDevice → List CompanionDevice
  | [] => [device]
  | current :: rest =>
    if current.deviceId = device.deviceId then device :: rest
    else current :: upsertInto device rest

def upsert (r : CompanionRegistry) (device : CompanionDevice) : CompanionRegistry :=
  ⟨upsertInto device r.devices⟩

def remove (r : CompanionRegistry) (deviceId : String) : CompanionRegistry :=
  ⟨r.devices.filter (fun device => device.deviceId != deviceId)⟩

/-- The ids of the devices that `list_devices` gives. -/
def ids (r : CompanionRegistry) : List String := r.devices.map CompanionDevice.deviceId

theorem mem_ids_upsert (r : CompanionRegistry) (device : CompanionDevice) (deviceId : String) :
    deviceId ∈ (r.upsert device).ids ↔ deviceId = device.deviceId ∨ deviceId ∈ r.ids := by
  obtain ⟨devices⟩ := r
  simp only [ids, upsert]
  induction devices with
  | nil => simp [upsertInto]
  | cons current rest ih =>
    by_cases hid : current.deviceId = device.deviceId
    · simp [upsertInto, hid]
    · simp only [upsertInto, if_neg hid, List.map_cons, List.mem_cons, ih]
      tauto

theorem mem_ids_upsertAll (r : CompanionRegistry) (devices : List CompanionDevice)
    (deviceId : String) :
    deviceId ∈ (devices.foldl upsert r).ids ↔
      deviceId ∈ devices.map CompanionDevice.deviceId ∨ deviceId ∈ r.ids := by
  induction devices generalizing r with
  | nil => simp
  | cons device devices ih =>
    rw [List.foldl_cons, ih, mem_ids_upsert, List.map_cons, List.mem_cons]
    tauto

theorem mem_ids_remove (r : CompanionRegistry) (removed deviceId : String) :
    deviceId ∈ (r.remove removed).ids ↔ deviceId ≠ removed ∧ deviceId ∈ r.ids := by
  simp only [ids, remove, List.mem_map, List.mem_filter, bne_iff_ne]
  grind

end CompanionRegistry

/-- A connection and the sending half of its outgoing channel, by the channel's number. -/
structure SessionHandle where
  connectionId : UInt64
  outgoing : Nat
  deriving DecidableEq, Repr

/-- The state shared by all connections and callers. A waiter in `pending` is the number of the
call that waits for the response. -/
structure LiveState where
  registry : CompanionRegistry
  ingress : CompanionIngress
  sessions : Keyed String SessionHandle
  pending : Keyed String Nat

/-- What accepting an envelope does: the state it leaves, the answer handed to the outgoing
channel, the response handed to a waiter, and what the caller is told. -/
structure Accepted where
  state : LiveState
  reply : Option QuicEnvelope
  delivered : Option (Nat × QuicEnvelope)
  result : Except AppError (Option String)

def QuicEnvelope.isResponse (envelope : QuicEnvelope) : Bool :=
  envelope.kind == .commandResponse || envelope.kind == .error

/-- The request id a response answers: in the payload, else the trace id. -/
def QuicEnvelope.answeredId (envelope : QuicEnvelope) : String :=
  (((envelope.payload.get? "requestId").bind Value.asStr).or envelope.traceId).getD ""

namespace LiveState

def new (registry : CompanionRegistry) : LiveState :=
  ⟨registry, .new .default, ∅, ∅⟩

/-- A session handle stands for its device as long as it is in the map. -/
def bindHello (s : LiveState) (connectionId : UInt64) (outgoing : Nat) (envelope : QuicEnvelope) :
    Keyed String SessionHandle :=
  match envelope.kind, envelope.deviceId with
  | .hello, some deviceId => s.sessions.insert deviceId ⟨connectionId, outgoing⟩
  | _, _ => s.sessions

/-- `accept_envelope`; `closed` says whether the outgoing channel has lost its reader. -/
def acceptEnvelope (s : LiveState) (connectionId : UInt64) (outgoing : Nat) (closed : Bool)
    (envelope : QuicEnvelope) : Accepted :=
  match validateQuicEnvelope envelope with
  | .error e => ⟨s, none, none, .error e⟩
  | .ok () =>
    if envelope.isResponse then
      let requestId := envelope.answeredId
      ⟨{ s with pending := s.pending.erase requestId }, none,
        s.pending[requestId]?.map (fun waiter => (waiter, envelope)), .ok none⟩
    else
      let handled := s.ingress.handleEnvelope envelope
      -- every session is listed again, also those whose connection is gone
      let accepted := { s with
        ingress := handled.1
        registry := handled.1.sessionManager.devices.foldl CompanionRegistry.upsert s.registry
        sessions := s.bindHello connectionId outgoing envelope }
      if envelope.kind = .heartbeat then ⟨accepted, none, none, .ok envelope.deviceId⟩
      else if closed then
        ⟨accepted, none, none, .error ⟨"COMPANION_QUIC_CONTROL_CLOSED",
          "Companion QUIC control stream closed before Core could reply.", "companion.quinn", true,
          none⟩⟩
      else ⟨accepted, some handled.2, none, .ok envelope.deviceId⟩

def disconnect (s : LiveState) (connectionId : UInt64) : Option String → LiveState
  | none => s
  | some deviceId =>
    if s.sessions[deviceId]?.any (fun handle => handle.connectionId == connectionId) then
      { s with sessions := s.sessions.erase deviceId, registry := s.registry.remove deviceId }
    else s

def disconnectConnection (s : LiveState) (connectionId : UInt64) : LiveState :=
  let deviceIds := (s.sessions.toList.filter (fun e => e.2.connectionId == connectionId)).map
    Prod.fst
  deviceIds.foldl (fun s deviceId => s.disconnect connectionId (some deviceId)) s

end LiveState

end AdbControl.Companion
