import ScriptHelp.Pattern

namespace ScriptHelp.Address

/-- The text after a name at its start, compared without case. -/
def after? : (name text : List Char) → Option (List Char)
  | [], text => some text
  | _ :: _, [] => none
  | n :: ns, c :: cs => if Text.sameLetter n c then after? ns cs else none

/-- Characters that are escaped in a pattern. -/
def marked : List Char :=
  ['(', ')', '[', ']', '\x7b', '\x7d', '?', '*', '+', '-', '|', '^', '$', '\\', '.', '&', '~', '#',
    ' ', '\t', '\n', '\r', '\x0b', '\x0c']

def escaped (name : List Char) : List Char :=
  name.flatMap fun c => if marked.contains c then ['\\', c] else [c]

/-- Any of the names at the start of a message, with an optional `@` before it and a space after it.
-/
def patternOf (names : List String) : String :=
  String.ofList ("^@?(?:".toList ++ ['|'].intercalate (names.map fun n => escaped n.toList) ++
    ") ".toList)

def patternRoom : Nat := 2

def remainder? (names : List String) (message : String) : Option String :=
  match Pattern.ofString patternRoom (patternOf names) with
  | .ok p => (p.taken? message).map fun n => String.ofList (message.toList.drop n)
  | .error _ => none

end ScriptHelp.Address
