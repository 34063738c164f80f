import ScriptHelp.Files.Tree
import ScriptHelp.Json.Reader

namespace ScriptHelp

open Text

/-- The seconds that a source may take, as given. -/
inductive TimeLimit
  | whole (n : Int)
  | real (x : Number.Double)
  deriving DecidableEq, Repr

namespace TimeLimit

def text : TimeLimit → String
  | .whole n => toString n
  | .real x => x.text

/-- No source finishes within a limit that is not positive. -/
def expired : TimeLimit → Bool
  | .whole n => decide (n ≤ 0)
  | .real x => !(Number.Double.finite false 0 0).lt x

def default : TimeLimit := .real (.ofDecimal false 30 0)

end TimeLimit

/-- Exceptions that end the loading of a source without being handled there. -/
inductive Breakdown
  | file (e : FileTree.Error)
  | decoding (f : Text.Utf8.Fault)
  | integerTooLong (digits : Nat)
  | tooDeep (c : Json.Container)
  | noName (p : Path)
  deriving DecidableEq, Repr

namespace Breakdown

def family : Breakdown → String
  | .file e => e.fault.family
  | .decoding _ => "UnicodeDecodeError"
  | .integerTooLong _ | .noName _ => "ValueError"
  | .tooDeep _ => "RecursionError"

def text : Breakdown → String
  | .file e => e.message
  | .decoding f => f.message
  | .integerTooLong n => Number.tooLongText n
  | .tooDeep c => Json.tooDeepText c
  | .noName p => "PosixPath(" ++ quoted p.text ++ ") has an empty name"

end Breakdown

inductive SourceCause
  | timedOut (limit : TimeLimit)
  | inaccessible (e : FileTree.Error)
  | unreadable (file : CodePoints) (e : ReadError)
  | invalidJson (text : List Char) (e : Json.Expected) (position : Nat)
  | unexpectedShape
  | packageNotFound
  | scriptsNotFound (scripts : List CodePoints)
  | brokeDown (b : Breakdown)
  deriving DecidableEq, Repr

def SourceCause.message : SourceCause → CodePoints
  | .timedOut limit => s!"timed out after {limit.text}s"
  | .inaccessible e => e.message
  | .unreadable file e => "cannot read " ++ file ++ s!": {e.message}"
  | .invalidJson text e position => "invalid JSON: " ++ Json.unexpectedText text e position
  | .unexpectedShape =>
    "expected a list of package names or an object mapping package names to script lists"
  | .packageNotFound => "package not found in node_modules or the Python path"
  | .scriptsNotFound scripts =>
    "declared scripts not found: " ++ List.intercalate (codePoints ", ") scripts
  | .brokeDown b => s!"{b.family}: {b.text}"

structure SourceError where
  source : CodePoints
  cause : SourceCause
  deriving DecidableEq, Repr

namespace SourceError

def message (e : SourceError) : CodePoints := e.cause.message

def tell (source message : CodePoints) : CodePoints :=
  "Error loading help from " ++ source ++ ": " ++ message

def text (e : SourceError) : CodePoints := tell e.source e.message

end SourceError

end ScriptHelp
