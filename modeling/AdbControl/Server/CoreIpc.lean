import AdbControl.Ipc
import AdbControl.Framework.Run
import AdbControl.Framework.Scanner

namespace AdbControl.Server.CoreIpc

open Framework

def newline : UInt8 := 10

def carriage : UInt8 := 13

/-- The buffer of the scanner, at first and at most. -/
def initialBufferSize : Nat := 64 * 1024

def maxTokenSize : Nat := 16 * 1024 * 1024

/-- `π` is what the parameters of a method can be. -/
structure Request (π : Type) where
  id : String
  method : String
  params : π
  deriving DecidableEq, Repr

/-- A response as the server reads it; its result is raw. -/
structure Response where
  id : String
  ok : Bool
  result : List UInt8
  error : Option AppError

/-- Why a round trip has no response. -/
inductive Unavailable
  | cancelled
  | marshal
  | tooLong
  | json
  deriving DecidableEq, Repr

inductive Answer
  | unavailable (cause : Unavailable)
  | mismatch
  | incomplete
  | refused (e : AppError)
  | unreadable
  | done
  deriving DecidableEq, Repr

/-- What the caller is told. -/
def Answer.error : Answer → Option AppError
  | .unavailable _ => some ⟨"CORE_UNAVAILABLE", "核心服务不可用", "core.ipc", true,
      some "请检查 Rust Core 是否已安装并可执行"⟩
  | .mismatch => some ⟨"CORE_RESPONSE_MISMATCH", "核心响应与请求不匹配", "core.ipc", false, none⟩
  | .incomplete => some ⟨"CORE_INVALID_RESPONSE", "核心返回了不完整的错误响应", "core.ipc", false, none⟩
  | .refused e => some e
  | .unreadable => some ⟨"CORE_RESULT_INVALID", "核心响应无法解析", "core.ipc", false, none⟩
  | .done => none

/-- How far a call has come; between two places it holds what it touches. -/
inductive CallPc
  | locking
  | checking
  | writing (line : List UInt8)
  | reading
  | returned (answer : Answer)
  deriving DecidableEq, Repr

/-- A call, whose target says which results can be decoded into it. -/
structure Call (π : Type) where
  request : Request π
  target : Option (List UInt8 → Bool)
  cancelled : Bool
  pc : CallPc

/-- The call is between its lock and its unlock. -/
def CallPc.holds : CallPc → Bool
  | .checking | .writing _ | .reading => true
  | _ => false

/-- The two ends of the pipes: how the server writes a request and reads a response, and how Core
answers a line that it has read. -/
structure Ends (κ π : Type) where
  marshal : Request π → Option (List UInt8)
  unmarshal : List UInt8 → Option Response
  serve : κ → List UInt8 → κ × List UInt8

/-- The pipes to Core and back, and what has gone through them. -/
structure Traffic where
  stdin : List UInt8
  stdout : List UInt8
  scanner : Scanner UInt8
  /-- which calls have written their requests, oldest first -/
  sent : List Nat
  /-- the lines that Core has read, oldest first, and its answers -/
  served : List (List UInt8 × List UInt8)

/-- The server's client and its transport, the pipes and Core. -/
structure Channel (κ π : Type) extends Traffic where
  core : κ
  /-- the call that has its token in `mu` -/
  holder : Option Nat
  sequence : Nat
  calls : List (Call π)

/-- What is left to chance in a step: which case of a `select` is taken, and how much a read gets. -/
structure Choice where
  locks : Bool
  bytes : Nat

inductive ChannelAct (π : Type)
  | call (method : String) (params : π) (target : Option (List UInt8 → Bool))
  | cancel (k : Nat)
  | go (k : Nat) (choice : Choice)
  /-- Core reads a line and answers it -/
  | serve

variable {κ π : Type}

/-- `Client.Call` on a response. -/
def Call.accept (call : Call π) (response : Response) : Answer :=
  if response.id ≠ call.request.id then .mismatch
  else if response.ok = false then
    match response.error with
    | none => .incomplete
    | some e => .refused e
  else
    match call.target with
    | none => .done
    | some decodes =>
      if response.result = [] then .done
      else if decodes response.result then .done else .unreadable

/-- And on the line that was read for it. -/
def Call.judge (ends : Ends κ π) (call : Call π) (line : List UInt8) : Answer :=
  match ends.unmarshal line with
  | none => .unavailable .json
  | some response => call.accept response

namespace Channel

def start (core : κ) : Channel κ π :=
  ⟨⟨[], [], .new initialBufferSize, [], []⟩, core, none, 0, []⟩

def setCall (s : Channel κ π) (k : Nat) (call : Call π) : Channel κ π :=
  { s with calls := s.calls.set k call }

/-- The call returns, and its deferred `unlock` takes the token out. -/
def finish (s : Channel κ π) (k : Nat) (call : Call π) (answer : Answer) : Channel κ π :=
  { s.setCall k { call with pc := .returned answer } with holder := none }

variable (ends : Ends κ π)

/-- One round of the loop of `Scan`, and what `RoundTrip` and `Call` make of its result. -/
def goReading (s : Channel κ π) (k : Nat) (choice : Choice) (call : Call π) : Channel κ π :=
  match s.scanner.poll maxTokenSize newline carriage with
  | (.token line, scanner) => { s.finish k call (call.judge ends line) with scanner }
  | (.stop, scanner) => { s.finish k call (.unavailable .tooLong) with scanner }
  | (.wants room, scanner) =>
    -- a read of an empty pipe blocks: the call comes here again
    let n := min room (max 1 choice.bytes)
    { s with scanner := scanner.feed (s.stdout.take n), stdout := s.stdout.drop n }

/-- The next step of a call of `Client.Call`, through `ProcessTransport.RoundTrip`. -/
def go (s : Channel κ π) (k : Nat) (choice : Choice) (call : Call π) : Channel κ π :=
  match call.pc with
  | .locking =>
    if s.holder = none ∧ (call.cancelled = false ∨ choice.locks) then
      { s.setCall k { call with pc := .checking } with holder := some k }
    else if call.cancelled then
      s.setCall k { call with pc := .returned (.unavailable .cancelled) }
    else s
  | .checking =>
    if call.cancelled then s.finish k call (.unavailable .cancelled)
    else
      match ends.marshal call.request with
      | none => s.finish k call (.unavailable .marshal)
      | some line => s.setCall k { call with pc := .writing line }
  | .writing line =>
    { s.setCall k { call with pc := .reading } with
      stdin := s.stdin ++ (line ++ [newline]), sent := s.sent ++ [k] }
  | .reading => s.goReading ends k choice call
  | .returned _ => s

/-- `serve_json_lines`, once a whole line has come. -/
def serveLine (s : Channel κ π) : Channel κ π :=
  if newline ∈ s.stdin then
    let line := s.stdin.take (s.stdin.idxOf newline)
    let answered := ends.serve s.core (Scanner.dropCr carriage line)
    { s with
      core := answered.1
      stdin := s.stdin.drop (s.stdin.idxOf newline + 1)
      stdout := s.stdout ++ (answered.2 ++ [newline])
      served := s.served ++ [(line, answered.2)] }
  else s

def step (s : Channel κ π) : ChannelAct π → Channel κ π
  | .call method params target =>
    let sequence := (s.sequence + 1) % 2^64
    { s with
      sequence := sequence
      calls := s.calls ++ [⟨⟨"web-" ++ toString sequence, method, params⟩, target, false, .locking⟩] }
  | .cancel k =>
    match s.calls[k]? with
    | none => s
    | some call => s.setCall k { call with cancelled := true }
  | .go k choice =>
    match s.calls[k]? with
    | none => s
    | some call => s.go ends k choice call
  | .serve => s.serveLine ends

end Channel

end AdbControl.Server.CoreIpc
