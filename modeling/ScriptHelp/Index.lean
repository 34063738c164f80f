import ScriptHelp.Corpus
import ScriptHelp.Pattern
import ScriptHelp.Stopwords
import ScriptHelp.Text.Basic

namespace ScriptHelp

structure Index.Entry where
  command : String
  lowered : String
  deriving DecidableEq, Repr

structure Index where
  entries : List Index.Entry
  /-- Lowercase. -/
  stopWords : List String
  /-- How many stack frames compiling a query may use. -/
  room : Nat

namespace Index

def Entry.ofCommand (c : String) : Entry := ⟨c, Text.lower c⟩

def ofCorpus (room : Nat) (c : Corpus) (stopWords : Option (List String)) : Index :=
  ⟨c.commands.map Entry.ofCommand,
    match stopWords with
    | some ws => ws.map Text.lower
    | none => Stopwords.english, room⟩

def size (i : Index) : Nat := i.entries.length

def commands (i : Index) : List String := i.entries.map Entry.command

inductive Tier
  | part
  | pattern
  | words
  deriving DecidableEq, Repr

def Tier.all : List Tier := [.part, .pattern, .words]

def terms (i : Index) (query : String) : List String :=
  (Text.words (Text.lower query)).filter fun w => !i.stopWords.contains w

def matchesPart (query : String) (e : Entry) : Bool :=
  Text.isPart (Text.lowerList query.toList) e.lowered.toList

def matchesWords (i : Index) (query : String) (e : Entry) : Bool :=
  (Text.words e.lowered).any (i.terms query).contains

/-- The entries that one tier finds. An invalid pattern finds nothing. -/
def found (i : Index) (query : String) : Tier → Except Pattern.Fault (List Entry)
  | .part => .ok (i.entries.filter (matchesPart query))
  | .pattern =>
    match Pattern.ofString i.room query with
    | .ok p => .ok (i.entries.filter fun e => p.occursIn e.command)
    | .error .invalid => .ok []
    | .error f => .error f
  | .words => .ok (i.entries.filter (i.matchesWords query))

def searchIn (i : Index) (query : String) : List Tier → Except Pattern.Fault (List Entry)
  | [] => .ok []
  | t :: ts => do
    match ← i.found query t with
    | [] => searchIn i query ts
    | es => return es

def search (i : Index) (query : String) : Except Pattern.Fault (List String) := do
  return (← i.searchIn query Tier.all).map Entry.command

end Index

end ScriptHelp
