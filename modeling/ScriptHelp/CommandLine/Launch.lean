import ScriptHelp.CommandLine.Basic

namespace ScriptHelp

structure Run where
  transport : Transport
  address? : Option (String × Int)
  banner : Bool
  deriving DecidableEq, Repr

inductive Run.Ending
  | finished
  | interrupted
  deriving DecidableEq, Repr

def CommandLine.run (c : CommandLine) : Run :=
  { transport := c.transport, address? := c.address?, banner := false }

/-- What the program has done so far: the variables as they are now, the runs begun, the texts. -/
structure Launch where
  environment : Environment
  runs : List Run := []
  output : String := ""
  errorOutput : String := ""
  deriving DecidableEq, Repr

namespace Launch

inductive Break
  | exit (code : Nat)
  | interrupt
  deriving DecidableEq, Repr

def exitCode? : Except Break Unit → Option Nat
  | .error (.exit code) => some code
  | _ => none

abbrev Program := ExceptT Break (StateM Launch)

def commandLine (args : List String) : Program CommandLine :=
  match CommandLine.read args with
  | .ok c => return c
  | .error s => do
    modify fun l =>
      { l with output := l.output ++ s.output, errorOutput := l.errorOutput ++ s.errorOutput }
    throw (.exit s.code)

def serve (r : Run) (ending : Run.Ending) : Program Unit := do
  modify fun l => { l with runs := l.runs ++ [r] }
  if ending = .interrupted then throw .interrupt

/-- The whole program, given how a run of the server ends. -/
def program (args : List String) (ending : Run.Ending) : Program Unit := do
  let c ← commandLine args
  modify fun l => { l with environment := c.environment l.environment }
  tryCatch (serve c.run ending) fun
    | .interrupt => return
    | b => throw b

def outcome (args : List String) (e : Environment) (ending : Run.Ending) :
    Except Break Unit × Launch :=
  (program args ending).run.run { environment := e }

end Launch

end ScriptHelp
