import ScriptHelp.Text.Whitespace
import ScriptHelp.Tool.Problem

namespace ScriptHelp

inductive Tool
  | help
  | catchAll
  | reload
  deriving DecidableEq, Repr

namespace Tool

def name : Tool → String
  | .help => "help"
  | .catchAll => "help_catch_all"
  | .reload => "help_reload"

def all : List Tool := [.help, .catchAll, .reload]

def named? (n : String) : Option Tool := all.find? fun t => t.name = n

def parameters : Tool → List String
  | .help => ["query"]
  | .catchAll => ["message"]
  | .reload => []

end Tool

inductive Call
  | help (query : Option String)
  | catchAll (message : String)
  | reload
  deriving DecidableEq, Repr

namespace Call

def tool : Call → Tool
  | .help _ => .help
  | .catchAll _ => .catchAll
  | .reload => .reload

/-- A message is trimmed before its length is checked. -/
def readMessage (j : Json) : Checked String := do
  match Text.strip? (← Checked.string j) with
  | none => .fault .whitespace
  | some m => if m.length > longestMessage then .fault (.tooLong m.length) else .ok m

def messageArgument (args : List (String × Json)) : Checked String :=
  .inside (.field "message") <| match args.lookup "message" with
    | some j => readMessage j
    | none => .fault .missingArgument

def knownArguments (args : List (String × Json)) : Tool → Checked Call
  | .help => (Checked.allowed (.orNull .string) args "query").map .help
  | .catchAll => (messageArgument args).map .catchAll
  | .reload => .ok .reload

def noOtherArguments (t : Tool) (args : List (String × Json)) : Checked Unit :=
  match args.filter fun a => !t.parameters.contains a.1 with
  | [] => .ok ()
  | others => .error (others.map fun a => ⟨[.field a.1], .unexpectedArgument⟩)

def read (t : Tool) (args : List (String × Json)) : Checked Call :=
  ((knownArguments args t).both (noOtherArguments t args)).map (·.1)

end Call

end ScriptHelp
