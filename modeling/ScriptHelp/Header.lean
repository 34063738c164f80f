import ScriptHelp.Record
import ScriptHelp.Text.Whitespace
import ScriptHelp.Text.Basic

namespace ScriptHelp.Header

open Text

def afterMarker? : List Char → Option (List Char)
  | '/' :: '/' :: cs => some cs
  | '#' :: cs => some cs
  | _ => none

def isComment (line : List Char) : Bool := (afterMarker? line).isSome

/-- The comment lines before the first line of another kind. -/
def block (text : List Char) : List (List Char) := (lineList text).takeWhile isComment

def clean (line : List Char) : List Char := trim ((afterMarker? line).getD line)

/-- Scripts write `None` under a section without content. -/
def isPlaceholder (cs : List Char) : Bool := lowerList cs == ['n', 'o', 'n', 'e']

inductive Line
  | void
  | heading (s : Section)
  | text (t : String)
  deriving DecidableEq, Repr

def Line.read (raw : List Char) : Line :=
  let cs := clean raw
  if cs.isEmpty || isPlaceholder cs then .void
  else match Section.ofHeading? (String.ofList cs) with
    | some s => .heading s
    | none => .text (String.ofList cs)

structure Reading where
  current : Option Section := none
  record : Record := {}

/-- A heading resets its section; text is appended to the open section and dropped before the first
heading. -/
def Reading.step (r : Reading) : Line → Reading
  | .void => r
  | .heading s => ⟨some s, r.record.update s fun _ => []⟩
  | .text t =>
    match r.current with
    | some s => { r with record := r.record.update s (· ++ [t]) }
    | none => r

/-- In a header without headings each line with a hyphen is a command. Two characters are dropped
whichever marker the line has. -/
def plainCommands (lines : List (List Char)) : List String :=
  (lines.filter (·.contains '-')).map fun l => String.ofList (trim (l.drop 2))

def read (text : String) : Record :=
  let lines := block text.toList
  let reading := (lines.map Line.read).foldl Reading.step {}
  match reading.current with
  | some _ => reading.record
  | none => { commands := plainCommands lines }

end ScriptHelp.Header
