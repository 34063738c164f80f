import ScriptHelp.Text.CaseTable
import ScriptHelp.Text.CasedTable
import ScriptHelp.Text.Whitespace

namespace ScriptHelp.Text

def CaseRun.has (r : CaseRun) (n : Nat) : Bool :=
  decide (r.first ≤ n) && decide (n ≤ r.last) && (n - r.first) % r.step == 0

def lowerCode (n : Nat) : Nat :=
  match caseRuns.find? fun r => n ≤ r.last with
  | some r => if r.has n then r.lower + (n - r.first) else n
  | none => n

def lowerChar (c : Char) : Char := Char.ofNat (lowerCode c.toNat)

/-- The nearest character that is not case-ignorable is cased. -/
def nextIsCased (cs : List Char) : Bool :=
  match cs.dropWhile caseIgnorable.has with
  | c :: _ => cased.has c
  | [] => false

/-- The lowercase form of a character, with `before` the reversed text before it. `İ` keeps its dot;
`Σ` takes its final form after a cased letter when none follows. -/
def lowerForm (before : List Char) (c : Char) (after : List Char) : List Char :=
  if c = 'Σ' then [if nextIsCased before && !nextIsCased after then 'ς' else 'σ']
  else if c = 'İ' then ['i', '\u0307']
  else [lowerChar c]

def lowerAfter (before : List Char) : List Char → List Char
  | [] => []
  | c :: cs => lowerForm before c cs ++ lowerAfter (c :: before) cs

def lowerList (cs : List Char) : List Char := lowerAfter [] cs

def lower (s : String) : String := String.ofList (lowerList s.toList)

def sharing (n : Nat) : List Nat :=
  match sharedUppercase.find? fun p => p.1 == n with
  | some p => p.2
  | none => []

/-- Equal up to case: their lowercase letters are equal or share an uppercase letter. -/
def sameLetter (a b : Char) : Bool :=
  let n := lowerCode b.toNat
  n == lowerCode a.toNat || (sharing (lowerCode a.toNat)).contains n

def normalize (lowercase : Bool) : Option String → String
  | none => ""
  | some s => if lowercase then lower (collapse s) else collapse s

end ScriptHelp.Text
