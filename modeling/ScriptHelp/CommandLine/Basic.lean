import ScriptHelp.Config
import ScriptHelp.CommandLine.Token

namespace ScriptHelp

structure CommandLine where
  transport : Transport := .stdio
  host : String := "127.0.0.1"
  port : Int := 8000
  cwd : Option String := none
  /-- Positional arguments, of which there should be none. -/
  strays : List String := []
  deriving DecidableEq, Repr

namespace CommandLine

inductive Stop
  | help
  | version
  | usage (e : UsageError)
  deriving DecidableEq, Repr

def set (c : CommandLine) (f : Flag) (v : String) : Except Stop CommandLine :=
  match f with
  | .transport => match Transport.named? v with
    | some t => .ok { c with transport := t }
    | none => .error (.usage (.notTransport v))
  | .host => .ok { c with host := v }
  | .port => match Number.readInteger v with
    | .ok n => .ok { c with port := n }
    | .error _ => .error (.usage (.notInteger f v))
  | .cwd => .ok { c with cwd := some v }
  | .help => .error .help
  | .version => .error .version

def stray (c : CommandLine) (s : String) : CommandLine := { c with strays := c.strays ++ [s] }

/-- The error in the letters attached to a single-letter flag, each a flag again. All letters are
checked before the first flag is applied, so `-vx` is an error and `-v=h` prints the version. -/
def clusterError? (f : Flag) : List Char → Option UsageError
  | [] => none
  | c :: cs => match Flag.ofLetter? c with
    | some g => clusterError? g cs
    | none => some (.unwantedValue f (String.ofList (c :: cs)))

/-- The error in a text attached to a flag: always one after a long spelling. -/
def attachedError? (f : Flag) (long : Bool) : Option String → Option UsageError
  | none => none
  | some v => if long || v = "" then some (.unwantedValue f v) else clusterError? f v.toList

/-- Applies the options in order, up to the first request for help or the version or the first
error. -/
def follow (c : CommandLine) : List Token → Except Stop CommandLine
  | [] => .ok c
  | .value s :: ts | .unknown s :: ts => (c.stray s).follow ts
  | .separator :: ts => (c.stray "--").follow ts
  | .option f long attached :: ts =>
    if f.takesValue then
      match attached, ts with
      | some v, ts => do (← c.set f v).follow ts
      | none, .value v :: ts => do (← c.set f v).follow ts
      | none, _ => .error (.usage (.expectedValue f))
    else match attachedError? f long attached with
      | some e => .error (.usage e)
      | none => do (← c.set f "").follow ts

/-- Stray arguments are an error once all options have been applied. -/
def read (args : List String) : Except Stop CommandLine :=
  match Token.readAll args with
  | .error e => .error (.usage e)
  | .ok ts => do
    let c ← follow {} ts
    if c.strays.isEmpty then return c else throw (.usage (.unrecognized c.strays))

def address? (c : CommandLine) : Option (String × Int) :=
  match c.transport with
  | .stdio => none
  | _ => some (c.host, c.port)

/-- Sets the bot's directory from the command line, unless it is empty. -/
def environment (c : CommandLine) (e : Environment) : Environment :=
  match c.cwd with
  | none | some "" => e
  | some d => e.set Config.cwdVariable (some d)

def versionText : String := "better-help 0.1.0\n"

def usageText : String :=
  "usage: better-help [-h] [--version] [--transport \x7bstdio,http,sse\x7d]\n" ++
  "                   [--host HOST] [--port PORT] [--cwd CWD]\n"

def helpText : String :=
  usageText ++
  "\n" ++
  "better-help Server - chat-bot script help exposed over MCP\n" ++
  "\n" ++
  "options:\n" ++
  "  -h, --help            show this help message and exit\n" ++
  "  --version, -v         show program's version number and exit\n" ++
  "  --transport \x7bstdio,http,sse\x7d\n" ++
  "                        Transport protocol (default: stdio)\n" ++
  "  --host HOST           Host to bind when using http/sse transport (default:\n" ++
  "                        127.0.0.1)\n" ++
  "  --port PORT           Port to bind when using http/sse transport (default:\n" ++
  "                        8000)\n" ++
  "  --cwd CWD             Bot directory holding scripts/ and external-\n" ++
  "                        scripts.json (default: BETTER_HELP_CWD or .)\n"

namespace Stop

def code : Stop → Nat
  | .help | .version => 0
  | .usage _ => 2

def output : Stop → String
  | .help => helpText
  | .version => versionText
  | .usage _ => ""

def errorOutput : Stop → String
  | .usage e => usageText ++ s!"better-help: error: {e.message}\n"
  | _ => ""

end Stop

end CommandLine

end ScriptHelp
