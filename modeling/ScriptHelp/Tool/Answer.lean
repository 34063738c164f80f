import ScriptHelp.Snapshot
import ScriptHelp.Text.Lowercase
import ScriptHelp.Tool.Call
import ScriptHelp.Tool.HelpData
import ScriptHelp.Tool.OperationError

namespace ScriptHelp

inductive CallFault
  | arguments (problems : List Problem)
  | search (tool : Tool) (fault : Pattern.Fault)
  deriving DecidableEq, Repr

def CallFault.family : CallFault → String
  | .arguments _ => "ValidationError"
  | .search .. => "ToolError"

def CallFault.message : CallFault → String
  | .arguments ps => Problem.texts ps
  | .search tool f => s!"Error calling tool '{tool.name}': {f.message}"

abbrev Answer := Except CallFault Envelope

def SourceError.toJson (e : SourceError) : Json :=
  .obj [("source", .str e.source.shown), ("message", .str e.message.shown)]

def Snapshot.warnings (s : Snapshot) : Json := .arr (s.errors.map SourceError.toJson)

def Snapshot.warningField (s : Snapshot) : List (String × Json) :=
  if s.errors.isEmpty then [] else [("warnings", s.warnings)]

namespace HelpData

def hints : List String :=
  ["Try a script name from the overview (call help without a query).",
    "Try fewer or different words."]

def hintField : ReplyKind → List (String × Json)
  | .notFound => [("hints", .ofStrings hints)]
  | _ => []

def count (n : Nat) : String × Json := ("count", .int n)

def scripts (s : Snapshot) : String × Json := ("scripts", .int s.corpus.size)

def ofHelp (s : Snapshot) (r : Reply) : HelpData where
  action := .replied r.kind
  reply := some r.text
  entries := r.commands
  summary := [count r.commands.length, scripts s] ++ hintField r.kind ++ s.warningField

def ofCatchAll (s : Snapshot) : Option Reply → HelpData
  | none => { action := .ignored, reply := none, summary := count 0 :: s.warningField }
  | some r => {
      action := .replied r.kind
      reply := some r.text
      entries := r.commands
      summary := count r.commands.length :: s.warningField }

def ofReload (s : Snapshot) : HelpData where
  action := .reload
  reply := none
  entries := s.corpus.names.mergeSort fun a b => decide (a ≤ b)
  summary := [scripts s, ("commands", .int s.index.size), ("warnings", s.warnings)]

def envelope (d : HelpData) : Envelope := .success d.toJson

end HelpData

namespace Call

def data (s : Snapshot) : Call → Except Pattern.Fault HelpData
  | .help query => do return .ofHelp s (← s.responder.respond query)
  | .catchAll message => do
    return .ofCatchAll s (← s.responder.catchAll (Text.normalize false message))
  | .reload => .ok (.ofReload s)

def loadFailed (t : Tool) (reason : String) : OperationError where
  operation := t.name
  status := "load_failed"
  message := "Help corpus could not be loaded"
  reason := reason
  action := "check BETTER_HELP_CWD and the script sources, then call help_reload"

def failure (t : Tool) (reason : String) : Envelope :=
  let e := loadFailed t reason
  .failure .null ⟨e.status, e.message, some e.fields⟩

/-- A failed load is reported in an envelope. -/
def answer (c : Call) : Except String Snapshot → Answer
  | .error reason => .ok (failure c.tool reason)
  | .ok s => match c.data s with
    | .ok d => .ok d.envelope
    | .error f => .error (.search c.tool f)

end Call

end ScriptHelp
