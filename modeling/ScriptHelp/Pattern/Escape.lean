import ScriptHelp.Json.Reader
import ScriptHelp.Pattern.Reader

namespace ScriptHelp.Pattern

def isOctal (c : Char) : Bool := '0' ≤ c && c ≤ '7'

def isDigit (c : Char) : Bool := '0' ≤ c && c ≤ '9'

def isHex (c : Char) : Bool := (Json.hexValue? c).isSome

def isAsciiLetter (c : Char) : Bool := ('a' ≤ c && c ≤ 'z') || ('A' ≤ c && c ≤ 'Z')

def numberIn (base : Nat) (cs : List Char) : Nat :=
  cs.foldl (fun n c => base * n + (Json.hexValue? c).getD 0) 0

inductive Escaped
  | code (n : Nat)
  | category (c : Category) (negated : Bool)
  | anchor (a : Anchor)
  | group (g : Nat)

def Escaped.member? : Escaped → Option Member
  | .code n => some (.code n)
  | .category c negated => some (.category c negated)
  | _ => none

def category? : Char → Option Escaped
  | 'd' => some (.category .digit false)
  | 'D' => some (.category .digit true)
  | 's' => some (.category .space false)
  | 'S' => some (.category .space true)
  | 'w' => some (.category .word false)
  | 'W' => some (.category .word true)
  | _ => none

def anchor? (ascii : Bool) : Char → Option Escaped
  | 'A' => some (.anchor .textStart)
  | 'b' => some (.anchor (.boundary ascii))
  | 'B' => some (.anchor (.noBoundary ascii))
  | 'Z' => some (.anchor .textEnd)
  | _ => none

def control? : Char → Option Escaped
  | 'a' => some (.code 7)
  | 'b' => some (.code 8)
  | 'f' => some (.code 12)
  | 'n' => some (.code 10)
  | 'r' => some (.code 13)
  | 't' => some (.code 9)
  | 'v' => some (.code 11)
  | '\\' => some (.code 92)
  | _ => none

namespace Read

/-- A code point of exactly `n` hexadecimal digits. A number beyond the signed 32-bit range is a
fault of its own. -/
def hexCode (n : Nat) : Read Escaped := do
  let ds ← atMost isHex n
  let code := numberIn 16 ds
  if ds.length ≠ n then invalid
  if code > 0x7FFFFFFF then throw .codePointTooLarge
  if code > 0x10FFFF then invalid
  return .code code

def namedCode : Read Escaped := do
  if !(← accept '\x7b') then invalid
  match Text.characterNamed? (← textUntil '\x7d') with
  | some n => return .code n
  | none => invalid

def octalCode (ds : List Char) : Read Escaped := do
  let code := numberIn 8 ds
  if code ≤ 0o377 then return .code code else invalid

def commonEscape (c : Char) : Read Escaped := do
  if c = 'x' then hexCode 2
  else if c = 'u' then hexCode 4
  else if c = 'U' then hexCode 8
  else if c = 'N' then namedCode
  else if isAsciiLetter c || isDigit c then invalid
  else return .code c.toNat

def setEscape (c : Char) : Read Escaped := do
  match control? c <|> category? c with
  | some e => return e
  | none =>
    if isOctal c then octalCode (c :: (← atMost isOctal 2))
    else commonEscape c

def groupEscape (ds : List Char) : Read Escaped := do
  let g := numberIn 10 ds
  if g > (← groupCount) then invalid
  if !(← isClosed g) then invalid
  checkBehind g
  return .group g

/-- Three octal digits are a code point, other digits a group reference. -/
def digitEscape (c : Char) : Read Escaped := do
  match ← atMost isDigit 1 with
  | [d] =>
    let third ← if isOctal c && isOctal d then atMost isOctal 1 else pure []
    match third with
    | [e] => octalCode [c, d, e]
    | _ => groupEscape [c, d]
  | _ => groupEscape [c]

def escape (ascii : Bool) (c : Char) : Read Escaped := do
  match anchor? ascii c <|> category? c <|> control? c with
  | some e => return e
  | none =>
    if c = '0' then octalCode (c :: (← atMost isOctal 2))
    else if isDigit c then digitEscape c
    else commonEscape c

end Read

end ScriptHelp.Pattern
