import ScriptHelp.Number.Digits
import ScriptHelp.Pattern.Width
import ScriptHelp.Text.CharacterName
import ScriptHelp.Text.Identifier

namespace ScriptHelp.Pattern

inductive Fault
  | invalid
  | repetitionTooLarge
  | codePointTooLarge
  | numberTooLong (digits : Nat)
  | clashingOptions
  | stackExhausted
  deriving DecidableEq, Repr

/-- A backslash and the character after it are one token. -/
structure Token where
  escaped : Bool
  char : Char
  deriving DecidableEq, Repr

/-- The tokens of a text, and whether it ends in a lone backslash. -/
def tokensOf : List Char → List Token × Bool
  | [] => ([], false)
  | c :: cs =>
    if c = '\\' then
      match cs with
      | [] => ([], true)
      | d :: cs => let r := tokensOf cs; (⟨true, d⟩ :: r.1, r.2)
    else let r := tokensOf cs; (⟨false, c⟩ :: r.1, r.2)

def Token.isPlain (t : Token) (c : Char) : Bool := !t.escaped && t.char == c

def Token.text (t : Token) : List Char := if t.escaped then ['\\', t.char] else [t.char]

structure Options where
  ignoreCase : Bool
  multiline : Bool
  dotAll : Bool
  verbose : Bool
  ascii : Bool
  deriving DecidableEq, Repr

def Options.initial : Options := ⟨true, false, false, false, false⟩

def Options.caseRule (o : Options) : CaseRule :=
  if !o.ignoreCase then .exact else if o.ascii then .ascii else .full

/-- Groups are numbered from one as they open; a group has a width once it is closed. -/
structure Reader where
  tokens : List Token
  endsInBackslash : Bool
  options : Options
  /-- The flag `u` was given, which excludes `a`. -/
  unicode : Bool
  noRepetition : Bool
  widths : List (Option Width)
  names : List (String × Nat)
  /-- Inside a look-behind, the number of the first group that is opened in it. -/
  behindFrom : Option Nat
  greatestCondition : Nat
  room : Nat

abbrev Read := StateT Reader (Except Fault)

namespace Read

def invalid {α : Type} : Read α := throw .invalid

def peek : Read (Option Token) := do return (← get).tokens.head?

/-- A lone backslash at the end is an error as soon as it is the next token. -/
def checkEnd : Read Unit := do
  let r ← get
  if r.tokens.isEmpty && r.endsInBackslash then invalid

def advance : Read Unit := do
  modify fun r => { r with tokens := r.tokens.tail }
  checkEnd

def next : Read (Option Token) := do
  let t ← peek
  advance
  return t

def need : Read Token := do
  match ← next with
  | some t => return t
  | none => invalid

def accept (c : Char) : Read Bool := do
  match ← peek with
  | some t => if t.isPlain c then do advance; return true else return false
  | none => return false

def atMost (p : Char → Bool) : (n : Nat) → Read (List Char)
  | 0 => return []
  | n + 1 => do
    match ← peek with
    | some t =>
      if !t.escaped && p t.char then do
        advance
        return t.char :: (← atMost p n)
      else return []
    | none => return []

def textUntil (stop : Char) : Read (List Char) := do
  let ts := (← get).tokens
  let before := ts.takeWhile fun t => !t.isPlain stop
  for _ in before do advance
  if before.isEmpty then invalid
  if ← accept stop then return before.flatMap Token.text else invalid

def goBack (tokens : List Token) : Read Unit := modify fun r => { r with tokens := tokens }

def groupCount : Read Nat := do return (← get).widths.length

def isClosed (g : Nat) : Read Bool := do
  return 0 < g && (((← get).widths[g - 1]?).join).isSome

/-- A look-behind may only refer to groups closed before it. -/
def checkBehind (g : Nat) : Read Unit := do
  match (← get).behindFrom with
  | some first =>
    if !(← isClosed g) then invalid
    if g ≥ first then invalid
  | none => return

def openGroup (name : Option String) : Read Nat := do
  let r ← get
  let g := r.widths.length + 1
  match name with
  | some n =>
    if (r.names.lookup n).isSome then invalid
    set { r with widths := r.widths ++ [none], names := (n, g) :: r.names }
  | none => set { r with widths := r.widths ++ [none] }
  return g

/-- Runs `inner` with `frames` stack frames less. -/
def nested {α : Type} (frames : Nat) (inner : Read α) : Read α := do
  let room := (← get).room
  if room < frames then throw .stackExhausted
  modify fun r => { r with room := room - frames }
  let a ← inner
  modify fun r => { r with room }
  return a

/-- A group is measured when it is closed, two frames below the reader. -/
def closeGroup (g : Nat) (body : List Node) : Read Unit := do
  let r ← get
  if r.room < widthFramesOf body + 2 then throw .stackExhausted
  set { r with widths := r.widths.set (g - 1) (some (widthOf r.widths body)) }

def groupNamed (n : String) : Read Nat := do
  match (← get).names.lookup n with
  | some g => return g
  | none => invalid

def behind {α : Type} (inner : Read α) : Read α := do
  let before := (← get).behindFrom
  if before.isNone then
    modify fun r => { r with behindFrom := some (r.widths.length + 1) }
  let a ← inner
  modify fun r => { r with behindFrom := before }
  return a

end Read

end ScriptHelp.Pattern
