import ScriptHelp.Pattern.Set

namespace ScriptHelp.Pattern

def Node.sameLeaf : Node → Node → Bool
  | .char s, .char t => s = t
  | .anchor a, .anchor b => a = b
  | .backreference r g, .backreference s h => r = s ∧ g = h
  | _, _ => false

def startsWith (n : Node) : List Node → Bool
  | m :: _ => n.sameLeaf m
  | [] => false

def membersOf? : List Node → Option (List Member)
  | [.char (.code _ false n)] => some [.code n]
  | [.char (.set _ _ false ms)] => some ms
  | _ => none

def oneOf (o : Options) (branches : List (List Node)) : Node :=
  match branches.mapM membersOf? with
  | some ms => .char (.set o.caseRule o.ascii false ms.flatten.eraseDups)
  | none => .choice branches

/-- A branch and its alternatives, simplified as far as the compiler does. -/
def joined (o : Options) : (branch : List Node) → (others : List (List Node)) → List Node
  | branch, [] => branch
  | n :: ns, b :: bs =>
    if (b :: bs).all (startsWith n) then n :: joined o ns ((b :: bs).map List.tail)
    else [oneOf o ((n :: ns) :: b :: bs)]
  | [], b :: bs => [oneOf o ([] :: b :: bs)]

theorem joined_nil (o : Options) (branch : List Node) : joined o branch [] = branch := by
  cases branch <;> rfl

def spliced (ns : List Node) : List Node :=
  ns.flatMap fun
    | .group none body => body
    | n => [n]

end ScriptHelp.Pattern
