import AdbControl.Error
import AdbControl.Framework.Text
import AdbControl.Framework.UtcTime

namespace AdbControl.Observability

open Framework

/-- The zero of Go's `time.Time` -/
def zeroTime : UtcTime := .newYear 1 (by omega)

structure Event where
  id : String
  type : String
  level : String
  module : String
  action : String
  message : String
  traceID : String
  errorCode : String := ""
  deviceID : String := ""
  method : String := ""
  path : String := ""
  status : Int := 0
  durationMS : Int := 0
  actor : String := ""
  ipAddress : String := ""
  userAgent : String := ""
  /-- the entries of the map, whose keys are different -/
  details : List (String × Value) := []
  createdAt : UtcTime := zeroTime

/-- The characters that the first `limit` bytes of a text show; of one that the cut goes through,
each byte is shown as a replacement character. -/
def takeBytes : Nat → List Char → List Char
  | _, [] => []
  | limit, c :: cs =>
    if c.utf8Size ≤ limit then c :: takeBytes (limit - c.utf8Size) cs
    else List.replicate limit '\ufffd'

def truncate (value : String) (limit : Nat) : String :=
  if value.utf8ByteSize ≤ limit then value
  else String.ofList (takeBytes limit value.toList) ++ "…"

def sanitizePath (path : String) : String :=
  String.ofList (path.toList.takeWhile (fun c => c != '?'))

def redacted : Value := .string "[redacted]"

def sensitiveWords : List String := ["password", "token", "apikey", "api_key", "secret"]

/-- `toLower` is `unicode.ToLower`. -/
def isSensitive (toLower : Char → Char) (key : String) : Bool :=
  sensitiveWords.any fun word => (rfind word.toList (key.toList.map toLower)).isSome

/-- The value that is kept under a key of the details. -/
def sanitizeValue (toLower : Char → Char) (key : String) (value : Value) : Value :=
  if isSensitive toLower key then redacted
  else match value with
    | .string typed => .string (truncate typed 1200)
    | typed => typed

def sanitizeDetails (toLower : Char → Char) (details : List (String × Value)) :
    List (String × Value) :=
  details.map fun entry => (entry.1, sanitizeValue toLower entry.1 entry.2)

def orElse (value default : String) : String := if value = "" then default else value

/-- `newID` is the id that is drawn where there is none, and `now` the time. -/
def normalizeEvent (toLower : Char → Char) (newID : String) (now : UtcTime) (event : Event) :
    Event :=
  let type := orElse event.type "system"
  let action := orElse event.action type
  { event with
    id := orElse event.id newID
    type
    level := orElse event.level "info"
    module := orElse event.module "system"
    action
    message := truncate (orElse event.message action) 1000
    traceID := orElse event.traceID "trace-unavailable"
    createdAt := if event.createdAt = zeroTime then now else event.createdAt
    path := sanitizePath event.path
    userAgent := truncate event.userAgent 300
    details := sanitizeDetails toLower event.details }

/-- What the browser posts of an error -/
structure ClientError where
  message : String
  source : String
  stack : String
  component : String
  route : String
  errorCode : String
  traceID : String
  details : List (String × Value)

/-- `details[key] = value` -/
def setDetail (details : List (String × Value)) (entry : String × Value) : List (String × Value) :=
  if details.any (fun old => old.1 == entry.1) then
    details.map fun old => if old.1 = entry.1 then entry else old
  else details ++ [entry]

/-- `clientError` up to the call of `Record` -/
def clientError (body : ClientError) (requestID actor ipAddress userAgent : String) :
    Except AppError Event :=
  if body.message = "" then
    .error ⟨"CLIENT_LOG_INVALID", "客户端错误日志缺少 message", "observability.client", true, none⟩
  else .ok {
    id := ""
    type := "client_error"
    level := "error"
    module := "web.client"
    action := "client.error"
    message := body.message
    traceID := orElse body.traceID requestID
    errorCode := body.errorCode
    path := body.route
    actor
    ipAddress
    userAgent
    details := body.details.foldl setDetail
      [("source", .string body.source), ("component", .string body.component),
        ("route", .string body.route), ("stack", .string body.stack)] }

end AdbControl.Observability
