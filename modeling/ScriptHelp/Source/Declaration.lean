import ScriptHelp.Record
import ScriptHelp.Source.Error

namespace ScriptHelp

open Text

/-- A declared package, with its scripts if it was declared in an object. -/
structure Declaration where
  package : CodePoints
  scripts : Option (List CodePoints)
  deriving DecidableEq, Repr

namespace Declaration

def everyScript : CodePoints := "*"

def restriction? (d : Declaration) : Option (List CodePoints) :=
  d.scripts.bind fun ss => if ss.contains everyScript then none else some ss

def strings? : List (Json CodePoints) → Option (List CodePoints)
  | [] => some []
  | .str s :: js => (strings? js).map (s :: ·)
  | _ => none

def lists? : List (CodePoints × Json CodePoints) → Option (List Declaration)
  | [] => some []
  | (n, .arr js) :: fs => (lists? fs).map (⟨n, some (js.map Json.spelled)⟩ :: ·)
  | _ => none

/-- A list of names, repeated ones counting once, or an object with a list of scripts for each name.
-/
def ofJson? : Json CodePoints → Option (List Declaration)
  | .arr js => (strings? js).map fun ns => (Record.firsts ns).map (⟨·, none⟩)
  | .obj fs => lists? fs
  | _ => none

/-- A file of whitespace declares nothing. -/
def read (depth : Nat) (text : List Char) : Except SourceCause (List Declaration) :=
  if text.all isWhitespace then .ok []
  else match Json.read depth text with
    | .ok j => match ofJson? j with
      | some ds => .ok ds
      | none => .error .unexpectedShape
    | .error (.unexpected e position) => .error (.invalidJson text e position)
    | .error (.integerTooLong n) => .error (.brokeDown (.integerTooLong n))
    | .error (.tooDeep c) => .error (.brokeDown (.tooDeep c))

end Declaration

end ScriptHelp
