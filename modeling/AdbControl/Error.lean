import AdbControl.Framework.Json

namespace AdbControl

open Framework

/-- The unified error of every core failure path. The free-text `cause` and the `traceId` that
no modelled function sets are left out. -/
structure AppError where
  errorCode : String
  message : String
  module : String
  recoverable : Bool
  suggestion : Option String := none
  deriving DecidableEq, Repr

namespace AppError

def withSuggestion (e : AppError) (suggestion : String) : AppError :=
  { e with suggestion := some suggestion }

/-- The error object as responses and error envelopes carry it. -/
def toJson (e : AppError) : Value :=
  .object ([("errorCode", .string e.errorCode), ("message", .string e.message),
    ("module", .string e.module), ("recoverable", .bool e.recoverable)] ++
    e.suggestion.toList.map (fun s => ("suggestion", .string s)))

end AppError

end AdbControl
