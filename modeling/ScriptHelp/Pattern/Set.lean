import ScriptHelp.Pattern.Escape

namespace ScriptHelp.Pattern.Read

def setMember (t : Token) : Read Member := do
  if t.escaped then
    match (← setEscape t.char).member? with
    | some m => return m
    | none => invalid
  else return .code t.char.toNat

/-- The members up to the closing bracket. A closing bracket in first place and a hyphen in last
place are members themselves. -/
def setMembers : (fuel : Nat) → (members : List Member) → Read (List Member)
  | 0, _ => invalid
  | fuel + 1, members => do
    let t ← need
    if t.isPlain ']' && !members.isEmpty then return members
    let m ← setMember t
    if ← accept '-' then
      let u ← need
      if u.isPlain ']' then return members ++ [m, .code '-'.toNat]
      match m, ← setMember u with
      | .code lo, .code hi =>
        if hi < lo then invalid
        setMembers fuel (members ++ [.range lo hi])
      | _, _ => invalid
    else setMembers fuel (members ++ [m])

/-- A set of one character is a literal. -/
def setTest (o : Options) (negated : Bool) (members : List Member) : CharTest :=
  match members.eraseDups with
  | [.code n] => .code o.caseRule negated n
  | ms => .set o.caseRule o.ascii negated ms

def set (o : Options) : Read Node := do
  let negated ← accept '^'
  let members ← setMembers ((← get).tokens.length + 1) []
  return .char (setTest o negated members)

end ScriptHelp.Pattern.Read
