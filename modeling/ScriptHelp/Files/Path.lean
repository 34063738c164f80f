import ScriptHelp.Text.Basic
import ScriptHelp.Text.CodePoints

namespace ScriptHelp

open Text

/-- An absolute path, its components split at slashes without the empty ones and single dots.
Exactly two leading slashes are kept. -/
structure Path where
  doubled : Bool := false
  names : List CodePoints
  deriving DecidableEq, Repr

namespace Path

def root : Path := { names := [] }

def slash : CodePoint := .char '/'

def parent : CodePoints := ".."

def namesOf (s : CodePoints) : List CodePoints :=
  (pieces (· = slash) s).filter fun n => n ≠ [] ∧ n ≠ "."

/-- Joins a path text; an absolute one replaces `p`. -/
def join (p : Path) (s : CodePoints) : Path :=
  let slashes := (s.takeWhile (· = slash)).length
  if slashes = 0 then { p with names := p.names ++ namesOf s }
  else { doubled := slashes = 2, names := namesOf s }

def child (p : Path) (n : String) : Path := p.join n

def text (p : Path) : CodePoints :=
  codePoints (if p.doubled then "//" else "/") ++ List.intercalate [slash] p.names

def name (p : Path) : CodePoints := p.names.getLastD []

def withName (p : Path) (n : CodePoints) : Path := { p with names := p.names.dropLast ++ [n] }

def foldName (done : List CodePoints) (n : CodePoints) : List CodePoints :=
  if n = parent then done.tail else n :: done

/-- Removes every `..` together with the component before it. -/
def foldNames (names : List CodePoints) : List CodePoints := (names.foldl foldName []).reverse

def resolve (p : Path) : Path := { names := foldNames p.names }

end Path

/-- Splits a file name into stem and suffix at its last dot, unless this is the first or last
character. -/
def splitSuffix (n : CodePoints) : CodePoints × CodePoints :=
  let dot := CodePoint.char '.'
  let suffix := (n.reverse.takeWhile (· ≠ dot)).reverse
  let stem := n.take (n.length - suffix.length - 1)
  if suffix.length < n.length ∧ suffix ≠ [] ∧ stem ≠ [] then (stem, dot :: suffix) else (n, [])

end ScriptHelp
