import ScriptHelp.CommandLine.Flag

namespace ScriptHelp

/-- An option with its attached value if any, spelled with one dash or with two. -/
inductive Token
  | value (s : String)
  | option (f : Flag) (long : Bool) (attached : Option String)
  | unknown (s : String)
  | separator
  deriving DecidableEq, Repr

namespace Token

def isLong (s : String) : Bool := ['-', '-'].isPrefixOf s.toList

def cutAtEquals (s : String) : String × Option String :=
  let cs := s.toList
  let before := cs.takeWhile (· ≠ '=')
  (String.ofList before,
    if before.length < cs.length then some (String.ofList (cs.drop (before.length + 1))) else none)

def isDigit (c : Char) : Bool := (Number.digit? c).isSome

def isFraction (cs : List Char) : Bool :=
  match cs.dropWhile isDigit with
  | '.' :: ds => !ds.isEmpty && ds.all isDigit
  | _ => false

def dropLineEnd (cs : List Char) : List Char :=
  if cs.getLast? = some '\n' then cs.dropLast else cs

/-- A minus sign and digits with an optional decimal point. One line feed may follow. -/
def isNegativeNumber (s : String) : Bool :=
  match dropLineEnd s.toList with
  | '-' :: cs => (!cs.isEmpty && cs.all isDigit) || isFraction cs
  | _ => false

def spelledOut? (s : String) : Option Token :=
  match Flag.named? s with
  | some f => some (.option f (isLong s) none)
  | none => match cutAtEquals s with
    | (name, some v) => (Flag.named? name).map (.option · (isLong name) (some v))
    | (_, none) => none

/-- An abbreviated long option; an ambiguous one is an error. -/
def abbreviated? (s : String) : Except UsageError (Option Token) :=
  let (name, attached) := cutAtEquals s
  match Flag.completions name with
  | [] => .ok none
  | [(_, f)] => .ok (some (.option f true attached))
  | fs => .error (.ambiguous s (fs.map (·.1)))

def clustered? (s : String) : Option Token :=
  match s.toList with
  | '-' :: c :: cs => (Flag.ofLetter? c).map (.option · false (some (String.ofList cs)))
  | _ => none

def partly? (s : String) : Except UsageError (Option Token) :=
  if isLong s then abbreviated? s else .ok (clustered? s)

/-- An argument that starts with a dash is an option, known or not, unless it is a lone dash, a
negative number, or contains a space. -/
def read (s : String) : Except UsageError Token := do
  if s.toList.head? ≠ some '-' then return .value s
  match spelledOut? s with
  | some t => return t
  | none =>
    if s = "-" then return .value s
    match ← partly? s with
    | some t => return t
    | none =>
      return if isNegativeNumber s || s.toList.contains ' ' then .value s else .unknown s

/-- After `--` every argument is positional. -/
def readAll : List String → Except UsageError (List Token)
  | [] => .ok []
  | "--" :: ss => .ok (.separator :: ss.map .value)
  | s :: ss => do return (← read s) :: (← readAll ss)

end Token

end ScriptHelp
