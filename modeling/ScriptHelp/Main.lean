import ScriptHelp.CommandLine.Launch
import ScriptHelp.Session

namespace ScriptHelp.Server

/-- What the recursion limit of 1000 leaves to each reader. -/
def stack : Stack := ⟨986, 986, 989⟩

def start (e : Environment) : Session where
  host := { tree := .dir [], searchPath := [Path.root.join "site"], stack }
  environment := e

def fileContent (j : Json) : FileTree :=
  match j.field? "content" with
  | some (.str s) => .file (Text.Utf8.encode s)
  | _ => .dir []

def readCall? (j : Json) (name : String) : Option Session.Step :=
  let arguments := match j.field? "arguments" with
    | some (.obj fs) => fs
    | _ => []
  (Tool.named? name).map fun t => .call ⟨t, arguments⟩

/-- A line is an object: `tool` with `arguments` calls a tool, `write` with `content` writes a file,
and `delete` removes one. -/
def readStep? (line : String) : Option Session.Step := do
  let j := (← (Json.read stack.declaration line.toList).toOption).map Text.CodePoints.shown
  match j.field? "tool", j.field? "write", j.field? "delete" with
  | some (.str name), _, _ => readCall? j name
  | _, some (.str p), _ => return .write (Path.root.join p) (fileContent j)
  | _, _, some (.str p) => return .delete (Path.root.join p)
  | _, _, _ => none

def fault (family message : String) : String :=
  (Json.obj [("error", .str family), ("message", .str message)]).compact

def answerText : Session.Output → String
  | .answer (.ok e) => e.compact.compact
  | .answer (.error f) => fault f.family f.message
  | _ => "\"done\""

def serve (e : Environment) : IO Unit := do
  let input ← IO.getStdin
  let output ← IO.getStdout
  let mut session := start e
  repeat
    let line ← input.getLine
    if line.isEmpty then break
    let line := Text.strip line
    if line.isEmpty then continue
    match readStep? line with
    | none => output.putStrLn (fault "UnreadableLine" line)
    | some step =>
      let (shown, next) := session.step step
      session := next
      output.putStrLn (answerText shown)
    output.flush

def readEnvironment : IO Environment := do
  let given ← Config.variableNames.mapM fun v => do return (← IO.getEnv v).map (v, ·)
  return given.filterMap id

/-- Only standard input and output are served; an address is refused. -/
def run (e : Environment) (r : Run) : IO UInt32 := do
  match r.address? with
  | some (host, port) =>
    IO.eprintln s!"better-help: cannot listen on {host}:{port}"
    return 1
  | none =>
    serve e
    return 0

end ScriptHelp.Server

open ScriptHelp in
def main (args : List String) : IO UInt32 := do
  let (ended, launch) := Launch.outcome args (← Server.readEnvironment) .finished
  IO.print launch.output
  IO.eprint launch.errorOutput
  let mut code := ((Launch.exitCode? ended).getD 0).toUInt32
  for r in launch.runs do
    code ← Server.run launch.environment r
  return code
