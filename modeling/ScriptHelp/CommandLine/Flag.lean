import ScriptHelp.Number.Digits
import ScriptHelp.Text.CodePoints

namespace ScriptHelp

inductive Flag
  | help
  | version
  | transport
  | host
  | port
  | cwd
  deriving DecidableEq, Repr

namespace Flag

/-- Every spelling with its option, in the order of declaration. -/
def spelled : List (String × Flag) :=
  [("-h", .help), ("--help", .help), ("--version", .version), ("-v", .version),
    ("--transport", .transport), ("--host", .host), ("--port", .port), ("--cwd", .cwd)]

def spellings (f : Flag) : List String := (spelled.filter (·.2 = f)).map (·.1)

def named? (s : String) : Option Flag := spelled.lookup s

def label (f : Flag) : String := String.intercalate "/" f.spellings

def takesValue : Flag → Bool
  | .help | .version => false
  | _ => true

def ofLetter? (c : Char) : Option Flag := named? (String.ofList ['-', c])

/-- The options that a long spelling may abbreviate. -/
def completions (s : String) : List (String × Flag) :=
  spelled.filter fun e => s.toList.isPrefixOf e.1.toList

end Flag

inductive Transport
  | stdio
  | http
  | sse
  deriving DecidableEq, Repr

namespace Transport

def name : Transport → String
  | .stdio => "stdio"
  | .http => "http"
  | .sse => "sse"

def all : List Transport := [.stdio, .http, .sse]

def named? (s : String) : Option Transport := all.find? fun t => t.name = s

end Transport

inductive UsageError
  | ambiguous (argument : String) (spellings : List String)
  | expectedValue (f : Flag)
  | unwantedValue (f : Flag) (value : String)
  | notInteger (f : Flag) (value : String)
  | notTransport (value : String)
  | unrecognized (arguments : List String)
  deriving DecidableEq, Repr

namespace UsageError

def about (f : Flag) (text : String) : String := s!"argument {f.label}: {text}"

def message : UsageError → String
  | .ambiguous a ss => s!"ambiguous option: {a} could match " ++ String.intercalate ", " ss
  | .expectedValue f => about f "expected one argument"
  | .unwantedValue f v => about f ("ignored explicit argument " ++ Text.quoted v)
  | .notInteger f v => about f ("invalid int value: " ++ Text.quoted v)
  | .notTransport v =>
    let choices := String.intercalate ", " (Transport.all.map fun t => Text.quoted t.name)
    about .transport s!"invalid choice: {Text.quoted v} (choose from {choices})"
  | .unrecognized as => "unrecognized arguments: " ++ String.intercalate " " as

end UsageError

end ScriptHelp
