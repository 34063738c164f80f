import ScriptHelp.Number.Shortest
import ScriptHelp.Text.CodePoints

namespace ScriptHelp

/-- A JSON value with strings in `σ`. Objects keep the insertion order of their keys. -/
inductive Json (σ : Type := String)
  | null
  | bool (b : Bool)
  | int (n : Int)
  | float (x : Number.Double)
  | str (s : σ)
  | arr (items : List (Json σ))
  | obj (fields : List (σ × Json σ))
  deriving Repr

namespace Json

open Text

variable {σ τ : Type}

/-- A repeated key keeps its place and takes the new value. -/
def setField [DecidableEq σ] (k : σ) (v : Json σ) : List (σ × Json σ) → List (σ × Json σ)
  | [] => [(k, v)]
  | (n, w) :: fs => if n = k then (n, v) :: fs else (n, w) :: setField k v fs

def ofFields [DecidableEq σ] (fs : List (σ × Json σ)) : Json σ :=
  .obj (fs.foldl (fun acc f => setField f.1 f.2 acc) [])

def field? [DecidableEq σ] : Json σ → σ → Option (Json σ)
  | .obj fs, k => fs.lookup k
  | _, _ => none

def ofStrings (ss : List σ) : Json σ := .arr (ss.map .str)

mutual

def map (f : σ → τ) : Json σ → Json τ
  | .null => .null
  | .bool b => .bool b
  | .int n => .int n
  | .float x => .float x
  | .str s => .str (f s)
  | .arr items => .arr (mapItems f items)
  | .obj fields => .obj (mapFields f fields)

def mapItems (f : σ → τ) : List (Json σ) → List (Json τ)
  | [] => []
  | j :: js => map f j :: mapItems f js

def mapFields (f : σ → τ) : List (σ × Json σ) → List (τ × Json τ)
  | [] => []
  | (k, j) :: fs => (f k, map f j) :: mapFields f fs

end

mutual

def repr (quote : σ → String) : Json σ → String
  | .null => "None"
  | .bool true => "True"
  | .bool false => "False"
  | .int n => toString n
  | .float x => x.text
  | .str s => quote s
  | .arr items => "[" ++ String.intercalate ", " (reprItems quote items) ++ "]"
  | .obj fields => "\x7b" ++ String.intercalate ", " (reprFields quote fields) ++ "\x7d"

def reprItems (quote : σ → String) : List (Json σ) → List String
  | [] => []
  | j :: js => repr quote j :: reprItems quote js

def reprFields (quote : σ → String) : List (σ × Json σ) → List String
  | [] => []
  | (k, j) :: fs => (quote k ++ ": " ++ repr quote j) :: reprFields quote fs

end

/-- A string as it is, any other value as its representation. -/
def spelled : Json CodePoints → CodePoints
  | .str s => s
  | j => repr quoted j

def stringChar (c : Char) : List Char :=
  if c = '"' ∨ c = '\\' then ['\\', c]
  else if c.toNat < 0x20 then '\\' :: 'u' :: Text.Utf8.hexDigits 4 c.toNat
  else [c]

def stringText (s : String) : String := String.ofList ('"' :: s.toList.flatMap stringChar ++ ['"'])

mutual

def compact : Json → String
  | .null => "null"
  | .bool true => "true"
  | .bool false => "false"
  | .int n => toString n
  | .float .nan => "NaN"
  | .float (.infinite negative) => if negative then "-Infinity" else "Infinity"
  | .float x => x.text
  | .str s => stringText s
  | .arr items => "[" ++ String.intercalate "," (compactItems items) ++ "]"
  | .obj fields => "\x7b" ++ String.intercalate "," (compactFields fields) ++ "\x7d"

def compactItems : List Json → List String
  | [] => []
  | j :: js => compact j :: compactItems js

def compactFields : List (String × Json) → List String
  | [] => []
  | (k, j) :: fs => (stringText k ++ ":" ++ compact j) :: compactFields fs

end

end Json

end ScriptHelp
