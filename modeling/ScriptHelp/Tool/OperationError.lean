import ScriptHelp.Json.Basic

namespace ScriptHelp

structure OperationError where
  operation : String
  status : String
  message : String
  reason : String := ""
  action : String := ""

namespace OperationError

/-- A line that is left out if its content is empty. -/
def line (label content : String) : List String :=
  if content = "" then [] else [s!"- {label}: {content}"]

def display (e : OperationError) : String :=
  String.intercalate "\n" <|
    [s!"{e.operation} failed", s!"- status: {e.status}", s!"- message: {e.message}"]
      ++ line "reason" e.reason ++ line "action" e.action

def fields (e : OperationError) : List (String × Json) :=
  [("status", .str e.status), ("operation", .str e.operation), ("message", .str e.message),
    ("reason", .str e.reason), ("action", .str e.action), ("display", .str e.display)]

end OperationError

end ScriptHelp
