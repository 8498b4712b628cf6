import AdbControl.Error

namespace AdbControl

open Framework

structure IpcRequest where
  id : String
  method : String
  params : Value

structure IpcResponse where
  id : Option String
  ok : Bool
  result : Option Value
  error : Option AppError

namespace IpcResponse

def success (id : String) (result : Value) : IpcResponse := ⟨some id, true, some result, none⟩

def failure (id : Option String) (error : AppError) : IpcResponse := ⟨id, false, none, some error⟩

def ofOutcome (id : String) : Except AppError Value → IpcResponse
  | .ok result => success id result
  | .error e => failure (some id) e

end IpcResponse

/-- `serde_json::from_value` on request parameters, with the text a service refuses them with. -/
def parseParamsWith {α : Type} (message : String) (decode : Value → Option α) (params : Value) :
    Except AppError α :=
  match decode params with
  | some p => .ok p
  | none => .error ⟨"REMOTE_PROTOCOL_PARAMS_INVALID", message, "remote.protocol", false, none⟩

/-- The same for the requests that Core serves itself. -/
def parseIpcParams {α : Type} (message : String) (decode : Value → Option α) (params : Value) :
    Except AppError α :=
  match decode params with
  | some p => .ok p
  | none => .error ⟨"IPC_PARAMS_INVALID", message, "ipc.protocol", false, none⟩

/-- `id` and `method` are required, `params` defaults to null. -/
def IpcRequest.ofJson (v : Value) : Option IpcRequest := do
  let [id, method, params] ← v.structFields ["id", "method", "params"] | none
  let id ← id.bind Value.asStr
  let method ← method.bind Value.asStr
  some ⟨id, method, params.getD .null⟩

/-- `handle_json_line`; every method answers under the id of its request, whatever its handler
comes to. -/
def handleJsonLine {κ : Type} (fromStr : List UInt8 → Option IpcRequest)
    (encodeResponse : IpcResponse → List UInt8)
    (handleRequest : κ → IpcRequest → κ × Except AppError Value) (core : κ) (line : List UInt8) :
    κ × List UInt8 :=
  match fromStr line with
  | none => (core, encodeResponse (.failure none ⟨"IPC_INVALID_JSON",
      "IPC request must be a valid JSON object.", "ipc.protocol", false, none⟩))
  | some request =>
    let handled := handleRequest core request
    (handled.1, encodeResponse (.ofOutcome request.id handled.2))

end AdbControl
