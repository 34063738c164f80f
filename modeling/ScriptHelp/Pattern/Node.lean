import ScriptHelp.Text.Whitespace
import ScriptHelp.Text.Lowercase
import ScriptHelp.Text.WordTable

namespace ScriptHelp.Pattern

inductive CaseRule
  | exact
  | ascii
  | full
  deriving DecidableEq, Repr

inductive Category
  | digit
  | space
  | word
  deriving DecidableEq, Repr

/-- A member of a character set. Escapes may name surrogates, so code points are numbers. -/
inductive Member
  | code (n : Nat)
  | range (lo hi : Nat)
  | category (c : Category) (negated : Bool)
  deriving DecidableEq, Repr

inductive CharTest
  | any
  | notLineFeed
  | code (rule : CaseRule) (negated : Bool) (n : Nat)
  | set (rule : CaseRule) (asciiOnly negated : Bool) (members : List Member)
  deriving DecidableEq, Repr

inductive Anchor
  | textStart
  | textEnd
  | lineStart
  | lineEnd
  /-- The end of the text, or before a line feed at the end. -/
  | lastLineEnd
  | boundary (asciiOnly : Bool)
  | noBoundary (asciiOnly : Bool)
  deriving DecidableEq, Repr

inductive Greed
  | greedy
  | reluctant
  | possessive
  deriving DecidableEq, Repr

inductive Node
  | char (t : CharTest)
  | anchor (a : Anchor)
  | group (capture : Option Nat) (body : List Node)
  | choice (branches : List (List Node))
  | repetition (greed : Greed) (min : Nat) (max : Option Nat) (body : List Node)
  | backreference (rule : CaseRule) (group : Nat)
  | look (behind negated : Bool) (body : List Node)
  | atomic (body : List Node)
  | conditional (group : Nat) (yes no : List Node)

def firstPlaneEnd : Nat := 0x10000

def asciiLowerCode (n : Nat) : Nat := if 0x41 ≤ n ∧ n ≤ 0x5A then n + 32 else n

def CaseRule.lowerCode : CaseRule → Nat → Nat
  | .exact, n => n
  | .ascii, n => asciiLowerCode n
  | .full, n => Text.lowerCode n

/-- The lowercase letters that match `n`, itself included. -/
def CaseRule.alike (rule : CaseRule) (n : Nat) : List Nat :=
  n :: if rule = .full then Text.sharing n else []

def CaseRule.uppercase : CaseRule → Nat → List Nat
  | .exact, _ => []
  | .ascii, n => if 0x61 ≤ n ∧ n ≤ 0x7A then [n - 32] else []
  | .full, n => Text.caseRuns.filterMap fun r =>
      let c := r.first + (n - r.lower)
      if r.lower ≤ n && r.has c then some c else none

def CaseRule.family (rule : CaseRule) (n : Nat) : List Nat :=
  (rule.alike n).flatMap fun m => m :: rule.uppercase m

def isWord (c : Char) : Bool := c = '_' || Text.alphanumeric.has c

def isDecimal (c : Char) : Bool :=
  match Text.decimalZeros.find? fun z => c.toNat ≤ z + 9 with
  | some z => decide (z ≤ c.toNat)
  | none => false

def isAsciiSpace (c : Char) : Bool := c = ' ' || (0x09 ≤ c.toNat && c.toNat ≤ 0x0D)

def Category.has (asciiOnly : Bool) : Category → Char → Bool
  | .digit, c => if asciiOnly then '0' ≤ c && c ≤ '9' else isDecimal c
  | .space, c => if asciiOnly then isAsciiSpace c else Text.isWhitespace c
  | .word, c => isWord c && (!asciiOnly || c.toNat < 0x80)

/-- The first code point of the uppercase form. -/
def upperCode (n : Nat) : Nat :=
  match Text.uppercaseStarts.find? fun r => r.1 ≤ n && n ≤ r.2.1 with
  | some (first, _, upper) => upper + (n - first)
  | none => (CaseRule.full.uppercase n).headD n

/-- A letter is in a range if one of its case forms is. A range that goes beyond U+FFFF also has the
letters with their uppercase form between its bounds, even where the rule is for ASCII. -/
def CaseRule.inRange (rule : CaseRule) (lo hi n : Nat) : Bool :=
  let among := fun last => (rule.family n).any fun m => lo ≤ m && m ≤ last
  if rule = .exact ∨ hi < firstPlaneEnd then among hi
  else among (firstPlaneEnd - 1) || [n, upperCode n].any fun m => lo ≤ m && m ≤ hi

/-- When case is ignored, an uppercase letter above U+FFFF in a set matches nothing. -/
def Member.has (rule : CaseRule) (asciiOnly : Bool) (c : Char) : Member → Bool
  | .code n =>
    if rule = .exact ∨ n ≥ firstPlaneEnd then rule.lowerCode c.toNat == n
    else (rule.alike (rule.lowerCode n)).contains (rule.lowerCode c.toNat)
  | .range lo hi => rule.inRange lo hi (rule.lowerCode c.toNat)
  | .category k negated => k.has asciiOnly c != negated

def CaseRule.isCased : CaseRule → Nat → Bool
  | .exact, _ => false
  | .ascii, n => (0x41 ≤ n && n ≤ 0x5A) || (0x61 ≤ n && n ≤ 0x7A)
  | .full, n => Text.lowerCode n != n || upperCode n != n

def Member.isCased (rule : CaseRule) : Member → Bool
  | .code n => rule.isCased n
  | .range lo hi => rule != .exact &&
      (hi ≥ firstPlaneEnd || (List.range (hi + 1 - lo)).any fun i => rule.isCased (lo + i))
  | .category .. => false

def CharTest.has (c : Char) : CharTest → Bool
  | .any => true
  | .notLineFeed => c != '\n'
  | .code rule negated n =>
    (rule.alike (rule.lowerCode n)).contains (rule.lowerCode c.toNat) != negated
  | .set rule asciiOnly negated members => members.any (·.has rule asciiOnly c) != negated

end ScriptHelp.Pattern
