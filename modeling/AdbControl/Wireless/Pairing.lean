import AdbControl.Framework.History
import AdbControl.Framework.Keyed
import AdbControl.Framework.Lines
import AdbControl.Framework.Threads
import AdbControl.ScrcpyServer

namespace AdbControl.Wireless

open Framework

section Manager

structure AdbCommandOutput where
  exitCode : Int
  stdout : String
  stderr : String
  deriving DecidableEq, Repr

/-- A QR code waits for its phone; `expiresAt` is an `Instant`, in nanoseconds. -/
structure PendingPairing where
  serviceName : String
  password : String
  expiresAt : Nat
  deriving DecidableEq, Repr

structure WirelessPairingResult where
  serviceName : String
  endpoint : String
  deriving DecidableEq, Repr

def qrPairingTtl : Nat := 120 * 1000000000

def qrRandomAlphabet : List Char :=
  "ABCDEFGHIJKLMNOPQRSTUVWXYZabcdefghijklmnopqrstuvwxyz0123456789".toList

/-- `random_ascii`, of the indexes that were drawn -/
def randomAscii (draws : List (Fin 62)) : String :=
  String.ofList (draws.map fun i => qrRandomAlphabet.getD i 'A')

def qrError (errorCode message : String) : AppError := ⟨errorCode, message, "adb.wifi.qr", true, none⟩

def sessionInvalid : AppError :=
  qrError "ADB_QR_PAIRING_SESSION_INVALID" "The QR pairing session is missing, expired, or cancelled."

def discoveryFailed : AppError :=
  qrError "ADB_QR_PAIRING_DISCOVERY_FAILED" "ADB could not query mDNS pairing services."

def notDiscovered : AppError :=
  (qrError "ADB_QR_PAIRING_NOT_DISCOVERED"
    "The phone has not advertised the QR pairing service yet.").withSuggestion
      "Keep the QR scanner open and retry this request shortly."

def pairingFailed : AppError := qrError "ADB_QR_PAIRING_FAILED" "ADB did not confirm QR-code pairing."

def spawnFailed (adbPath : String) : AppError :=
  (⟨"ADB_PROCESS_SPAWN_FAILED", "Failed to start adb binary at " ++ adbPath, "adb.runner", true, none⟩ :
    AppError).withSuggestion
      "Verify that the ADB asset exists, is executable, and matches the host target."

/-- `ProcessAdbRunner::run`; `none` is a process that did not start. -/
def runAdb (adbPath : String) (args : List String) (outcome : Option AdbCommandOutput) :
    Except AppError AdbCommandOutput := do
  validateAdbArgs args
  match outcome with
  | none => .error (spawnFailed adbPath)
  | some output => pure output

def mdnsArgs : List String := ["mdns", "services"]

def pairArgs (endpoint password : String) : List String := ["pair", endpoint, password]

def serviceTypePairing : List Char := "_adb-tls-pairing._tcp".toList

/-- `find_pairing_endpoint`; a line with fewer than three fields is passed over. -/
def findPairingEndpoint (output serviceName : String) : Option String :=
  (lines output.toList).findSome? fun line =>
    match splitWhitespace line with
    | name :: serviceType :: endpoint :: _ =>
      if name = serviceName.toList ∧ serviceType = serviceTypePairing then
        some (String.ofList endpoint)
      else none
    | _ => none

def confirmsPairing (output : AdbCommandOutput) : Bool :=
  output.exitCode = 0 &&
    "successfully paired to ".toList.isPrefixOf
      ((output.stdout.toList.dropWhile isWhitespace).map Char.toLower)

/-- The endpoint comes from a line that names the service and its type. -/
theorem findPairingEndpoint_spec {output serviceName endpoint : String}
    (h : findPairingEndpoint output serviceName = some endpoint) :
    ∃ line ∈ lines output.toList, ∃ rest, splitWhitespace line =
      serviceName.toList :: serviceTypePairing :: endpoint.toList :: rest := by
  obtain ⟨line, hline, hfound⟩ := List.exists_of_findSome?_eq_some h
  refine ⟨line, hline, ?_⟩
  split at hfound
  next name serviceType address rest hfields =>
    split_ifs at hfound with hnames
    obtain ⟨rfl, rfl⟩ := hnames
    rw [← Option.some.inj hfound, String.toList_ofList]
    exact ⟨rest, hfields⟩
  next => cases hfound

end Manager

section System

/-- Where a pairing request of the server is: between two calls of Core, or in Core's `pair`. -/
inductive Phase
  | idle
  | calling (sessionId : String)
  | discovering (sessionId : String) (pairing : PendingPairing)
  | pairing (sessionId : String) (pairing : PendingPairing) (endpoint : String)
  | confirmed (sessionId : String) (pairing : PendingPairing) (endpoint : String)
  | waiting (sessionId : String)
  deriving DecidableEq, Repr

def Phase.isEarly : Phase → Bool
  | calling _ | discovering .. => true
  | _ => false

structure Request where
  phase : Phase
  /-- The server has not turned away from Core's answer. -/
  awaited : Bool
  deriving DecidableEq, Repr

def Request.idle : Request := ⟨.idle, false⟩

structure State where
  clock : Nat
  pending : Keyed String PendingPairing
  requests : List Request

/-- What can happen to a request -/
inductive Turn
  | request (sessionId : String)
  | call
  | discover (outcome : Option AdbCommandOutput)
  | pair (outcome : Option AdbCommandOutput)
  | finish
  | retry
  | giveUp
  | lose

inductive Act
  | tick (d : Nat)
  | create (sessionId : String) (name : Fin 10 → Fin 62) (password : Fin 12 → Fin 62) (rendered : Bool)
  | cancel (sessionId : String)
  | turn (k : Nat) (t : Turn)

inductive Note
  | issued (sessionId : String) (pairing : PendingPairing)
  | closed (sessionId : String)
  | requested (k : Nat) (sessionId : String)
  | began (k : Nat) (sessionId : String) (pairing : PendingPairing)
  | ran (k : Nat) (args : List String) (output : AdbCommandOutput)
  | answered (k : Nat) (result : Except AppError WirelessPairingResult)

/-- Where a turn leads: the request and the sessions after it, and what is seen of it. -/
structure Moved where
  request : Request
  pending : Keyed String PendingPairing
  notes : List Note

namespace State

def start (requests : Nat) : State := ⟨0, ∅, List.replicate requests .idle⟩

/-- `pending.retain(|_, pairing| pairing.expires_at > now)` -/
def live (s : State) : Keyed String PendingPairing :=
  s.pending.retain fun _ p => decide (s.clock < p.expiresAt)

def newPairing (s : State) (name : Fin 10 → Fin 62) (password : Fin 12 → Fin 62) : PendingPairing :=
  ⟨"studio-" ++ randomAscii (List.ofFn name), randomAscii (List.ofFn password), s.clock + qrPairingTtl⟩

/-- An error of Core: the server calls again where the phone has not shown up, and hands on any other
error, if it has not turned away. -/
def fail (k : Nat) (r : Request) (pending : Keyed String PendingPairing) (sessionId : String)
    (seen : List Note) (e : AppError) : Moved :=
  if r.awaited then
    if e.errorCode = "ADB_QR_PAIRING_NOT_DISCOVERED" then ⟨⟨.waiting sessionId, true⟩, pending, seen⟩
    else ⟨.idle, pending, seen ++ [.answered k (.error e)]⟩
  else ⟨.idle, pending, seen⟩

def waitCancelled : AppError := qrError "ADB_QR_PAIRING_WAIT_CANCELLED" "等待手机广播二维码配对服务已结束"

def coreUnavailable : AppError :=
  (⟨"CORE_UNAVAILABLE", "核心服务不可用", "core.ipc", true, none⟩ : AppError).withSuggestion
    "请检查 Rust Core 是否已安装并可执行"

variable (adb : Except AppError String)

/-- `pairWirelessQR` of the server, and Core's `pair` under it -/
def move (s : State) (k : Nat) (r : Request) (t : Turn) : Moved :=
  let same : Moved := ⟨r, s.pending, []⟩
  match r.phase, t with
  | .idle, .request sessionId =>
    if isBlank sessionId then
      ⟨r, s.pending, [.answered k (.error (qrError "ADB_QR_PAIRING_SESSION_INVALID" "二维码配对会话无效"))]⟩
    else ⟨⟨.calling sessionId, true⟩, s.pending, [.requested k sessionId]⟩
  | .calling sessionId, .call =>
    match adb with
    | .error e => fail k r s.pending sessionId [] e
    | .ok _ =>
      match s.live[sessionId]? with
      | none => fail k r s.live sessionId [] sessionInvalid
      | some p => ⟨⟨.discovering sessionId p, r.awaited⟩, s.live, [.began k sessionId p]⟩
  | .discovering sessionId p, .discover outcome =>
    match runAdb (adb.toOption.getD "") mdnsArgs outcome with
    | .error e => fail k r s.pending sessionId [] e
    | .ok output =>
      if output.exitCode ≠ 0 then fail k r s.pending sessionId [.ran k mdnsArgs output] discoveryFailed
      else
        match findPairingEndpoint output.stdout p.serviceName with
        | none => fail k r s.pending sessionId [.ran k mdnsArgs output] notDiscovered
        | some endpoint =>
          ⟨⟨.pairing sessionId p endpoint, r.awaited⟩, s.pending, [.ran k mdnsArgs output]⟩
  | .pairing sessionId p endpoint, .pair outcome =>
    match runAdb (adb.toOption.getD "") (pairArgs endpoint p.password) outcome with
    | .error e => fail k r s.pending sessionId [] e
    | .ok output =>
      if confirmsPairing output then
        ⟨⟨.confirmed sessionId p endpoint, r.awaited⟩, s.pending,
          [.ran k (pairArgs endpoint p.password) output]⟩
      else fail k r s.pending sessionId [.ran k (pairArgs endpoint p.password) output] pairingFailed
  | .confirmed sessionId p endpoint, .finish =>
    ⟨.idle, s.pending.erase sessionId,
      .closed sessionId :: if r.awaited then [.answered k (.ok ⟨p.serviceName, endpoint⟩)] else []⟩
  | .waiting sessionId, .retry => ⟨⟨.calling sessionId, true⟩, s.pending, []⟩
  | .waiting _, .giveUp => ⟨.idle, s.pending, [.answered k (.error waitCancelled)]⟩
  -- the transport fails before Core has the request, or while Core is at work
  | .calling _, .lose => ⟨.idle, s.pending, [.answered k (.error coreUnavailable)]⟩
  | .discovering .., .lose | .pairing .., .lose | .confirmed .., .lose =>
    if r.awaited then ⟨⟨r.phase, false⟩, s.pending, [.answered k (.error coreUnavailable)]⟩ else same
  | _, _ => same

def step (s : State) : Act → State
  | .tick d => { s with clock := s.clock + d }
  | .create sessionId name password rendered =>
    if rendered then { s with pending := s.live.insert sessionId (s.newPairing name password) } else s
  | .cancel sessionId => { s with pending := s.pending.erase sessionId }
  | .turn k t =>
    match s.requests[k]? with
    | some r =>
      let m := s.move adb k r t
      { s with pending := m.pending, requests := s.requests.set k m.request }
    | none => s

def notes (s : State) : Act → List Note
  | .tick _ => []
  | .create sessionId name password rendered =>
    if rendered then [.issued sessionId (s.newPairing name password)] else []
  | .cancel sessionId => [.closed sessionId]
  | .turn k t =>
    match s.requests[k]? with
    | some r => (s.move adb k r t).notes
    | none => []

end State

end System

end AdbControl.Wireless
