import ScriptHelp.Json.Basic
import ScriptHelp.Record

namespace ScriptHelp.Record

inductive Unlisted
  | int
  | bool
  | float
  deriving DecidableEq, Repr

def Unlisted.name : Unlisted → String
  | .int => "int"
  | .bool => "bool"
  | .float => "float"

inductive FieldError
  | unknown (field : String)
  | unlisted (u : Unlisted)
  deriving DecidableEq, Repr

def FieldError.message : FieldError → String
  | .unknown field =>
    s!"DocumentationRecord.__init__() got an unexpected keyword argument '{field}'"
  | .unlisted u => s!"'{u.name}' object is not iterable"

/-- A string as it is, any other value as its representation. -/
def lineOf : Json → String
  | .str s => s
  | j => j.repr fun s : String => Text.quoted s

/-- The items of a list, the characters of a string, or the keys of an object. -/
def linesOf : Json → Except FieldError (List String)
  | .null => .ok []
  | .arr js => .ok (js.map lineOf)
  | .str s => .ok (s.toList.map fun c => String.ofList [c])
  | .obj fs => .ok (fs.map (·.1))
  | .int _ => .error (.unlisted .int)
  | .bool _ => .error (.unlisted .bool)
  | .float _ => .error (.unlisted .float)

/-- Field names are checked before any value. -/
def ofFields (fs : List (String × Json)) : Except FieldError Record := do
  match fs.find? fun f => (Section.named? f.1).isNone with
  | some f => .error (.unknown f.1)
  | none =>
    let lines ← Section.all.mapM fun s => do
      return (s, ← linesOf ((fs.lookup s.name).getD .null))
    return .ofSections fun s => (lines.lookup s).getD []

end ScriptHelp.Record
