import ScriptHelp.Json.Basic
import ScriptHelp.Tool.Action

namespace ScriptHelp

/-- One step on the way to a part of a value. -/
inductive Place
  | field (name : String)
  | item (index : Nat)
  deriving DecidableEq, Repr

def Place.text : Place → String
  | .field name => name
  | .item index => toString index

def longestMessage : Nat := 2000

def whitespaceText : String := "Value cannot be empty or whitespace only"

inductive Problem.Cause
  | notString
  | notList
  | notObject
  | notBoolean
  | unclearBoolean
  | notFailure
  | notAction
  | missing
  | successWithError
  | failureWithoutError
  | missingArgument
  | unexpectedArgument
  | whitespace
  | tooLong (length : Nat)
  deriving DecidableEq, Repr

namespace Problem.Cause

def message : Problem.Cause → String
  | .notString => "Input should be a valid string"
  | .notList => "Input should be a valid list"
  | .notObject => "Input should be a valid dictionary"
  | .notBoolean => "Input should be a valid boolean"
  | .unclearBoolean => "Input should be a valid boolean, unable to interpret input"
  | .notFailure => "Input should be a valid dictionary or instance of ToolError"
  | .notAction => "Input should be " ++ Action.choices
  | .missing => "Field required"
  | .successWithError => "Value error, ok=true responses must not include error"
  | .failureWithoutError => "Value error, ok=false responses must include error"
  | .missingArgument => "Missing required argument"
  | .unexpectedArgument => "Unexpected keyword argument"
  | .whitespace => "Value error, " ++ whitespaceText
  | .tooLong length =>
    s!"Value should have at most {longestMessage} items after validation, not {length}"

def kind : Problem.Cause → String
  | .notString => "string_type"
  | .notList => "list_type"
  | .notObject => "dict_type"
  | .notBoolean => "bool_type"
  | .unclearBoolean => "bool_parsing"
  | .notFailure => "model_type"
  | .notAction => "literal_error"
  | .missing => "missing"
  | .successWithError | .failureWithoutError | .whitespace => "value_error"
  | .missingArgument => "missing_argument"
  | .unexpectedArgument => "unexpected_keyword_argument"
  | .tooLong _ => "too_long"

end Problem.Cause

/-- A problem and its location, from the outside in. -/
structure Problem where
  places : List Place
  cause : Problem.Cause
  deriving DecidableEq, Repr

namespace Problem

def text (p : Problem) : String :=
  String.intercalate "." (p.places.map Place.text) ++ s!": {p.cause.message} [{p.cause.kind}]"

def texts (ps : List Problem) : String := String.intercalate "; " (ps.map text)

def inside (p : Place) (q : Problem) : Problem := ⟨p :: q.places, q.cause⟩

end Problem

/-- A value, or all problems met while it was read. -/
abbrev Checked (α : Type) := Except (List Problem) α

namespace Checked

def fault (c : Problem.Cause) : Checked α := .error [⟨[], c⟩]

def inside (p : Place) : Checked α → Checked α
  | .ok a => .ok a
  | .error ps => .error (ps.map (Problem.inside p))

/-- Both values, or the problems of both in order. -/
def both : Checked α → Checked β → Checked (α × β)
  | .ok a, .ok b => .ok (a, b)
  | .error ps, .error qs => .error (ps ++ qs)
  | .error ps, .ok _ => .error ps
  | .ok _, .error qs => .error qs

def items (read : Json → Checked α) : (index : Nat) → List Json → Checked (List α)
  | _, [] => .ok []
  | n, j :: js =>
    (both (inside (.item n) (read j)) (items read (n + 1) js)).map fun p => p.1 :: p.2

def string : Json → Checked String
  | .str s => .ok s
  | _ => fault .notString

def list (read : Json → Checked α) : Json → Checked (List α)
  | .arr js => items read 0 js
  | _ => fault .notList

def fields : Json → Checked (List (String × Json))
  | .obj fs => .ok fs
  | _ => fault .notObject

def orNull (read : Json → Checked α) : Json → Checked (Option α)
  | .null => .ok none
  | j => (read j).map some

def required (read : Json → Checked α) (fs : List (String × Json)) (name : String) : Checked α :=
  inside (.field name) <| match fs.lookup name with
    | some j => read j
    | none => fault .missing

def allowed (read : Json → Checked α) (fs : List (String × Json)) (name : String) : Checked α :=
  inside (.field name) (read ((fs.lookup name).getD .null))

def trueWords : List String := ["1", "on", "t", "true", "y", "yes"]

def falseWords : List String := ["0", "off", "f", "false", "n", "no"]

def booleanWord? (s : String) : Option Bool :=
  let w := String.ofList (s.toList.map Char.toLower)
  if trueWords.contains w then some true
  else if falseWords.contains w then some false
  else none

def booleanNumber? (n : Int) : Option Bool :=
  if n = 1 then some true else if n = 0 then some false else none

def clear : Option Bool → Checked Bool
  | some b => .ok b
  | none => fault .unclearBoolean

/-- Booleans may be given as words or numbers; a number with a fraction is invalid. -/
def boolean : Json → Checked Bool
  | .bool b => .ok b
  | .str s => clear (booleanWord? s)
  | .int n => clear (booleanNumber? n)
  | .float x => match x.whole? with
    | some n => if n.natAbs < Nat.pow 2 63 then clear (booleanNumber? n) else fault .notBoolean
    | none => fault .notBoolean
  | _ => fault .notBoolean

end Checked

end ScriptHelp
