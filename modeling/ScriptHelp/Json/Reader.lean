import ScriptHelp.Json.Basic

namespace ScriptHelp.Json

open Text

inductive Expected
  | value
  | name
  | colon
  | comma
  | nothing
  | closingQuote
  | plainCharacter
  | escape
  | unicodeEscape
  | noByteOrderMark
  deriving DecidableEq, Repr

def Expected.text : Expected → String
  | .value => "Expecting value"
  | .name => "Expecting property name enclosed in double quotes"
  | .colon => "Expecting ':' delimiter"
  | .comma => "Expecting ',' delimiter"
  | .nothing => "Extra data"
  | .closingQuote => "Unterminated string starting at"
  | .plainCharacter => "Invalid control character at"
  | .escape => "Invalid \\escape"
  | .unicodeEscape => "Invalid \\uXXXX escape"
  | .noByteOrderMark => "Unexpected UTF-8 BOM (decode using utf-8-sig)"

inductive Container
  | array
  | object
  deriving DecidableEq, Repr

inductive Fault
  | unexpected (e : Expected) (position : Nat)
  | integerTooLong (digits : Nat)
  | tooDeep (c : Container)
  deriving DecidableEq, Repr

def lineAndColumn (before : List Char) : Nat × Nat :=
  (before.count '\n' + 1, (before.reverse.takeWhile (· ≠ '\n')).length + 1)

def unexpectedText (text : List Char) (e : Expected) (position : Nat) : String :=
  let (line, column) := lineAndColumn (text.take position)
  e.text ++ s!": line {line} column {column} (char {position})"

def tooDeepText : Container → String
  | .array => "maximum recursion depth exceeded while decoding a JSON array from a unicode string"
  | .object => "maximum recursion depth exceeded while decoding a JSON object from a unicode string"

structure Cursor where
  position : Nat
  rest : List Char

namespace Cursor

def skip (c : Cursor) (n : Nat) : Cursor := ⟨c.position + n, c.rest.drop n⟩

def isSpace (c : Char) : Bool := c = ' ' || c = '\t' || c = '\n' || c = '\r'

def skipSpace (c : Cursor) : Cursor :=
  let spaces := c.rest.takeWhile isSpace
  c.skip spaces.length

def fault (c : Cursor) (e : Expected) : Except Fault α := .error (.unexpected e c.position)

end Cursor

def hexValue? (c : Char) : Option Nat :=
  if '0' ≤ c ∧ c ≤ '9' then some (c.toNat - 48)
  else if 'a' ≤ c ∧ c ≤ 'f' then some (c.toNat - 87)
  else if 'A' ≤ c ∧ c ≤ 'F' then some (c.toNat - 55)
  else none

def hexNumber? (cs : List Char) : Option Nat :=
  cs.foldl (fun n c => n.bind fun n => (hexValue? c).map (16 * n + ·)) (some 0)

def isHighSurrogate (n : Nat) : Bool := 0xD800 ≤ n && n ≤ 0xDBFF

def isLowSurrogate (n : Nat) : Bool := 0xDC00 ≤ n && n ≤ 0xDFFF

def simpleEscape? : Char → Option Char
  | '"' => some '"'
  | '\\' => some '\\'
  | '/' => some '/'
  | 'b' => some '\u0008'
  | 'f' => some '\u000c'
  | 'n' => some '\n'
  | 'r' => some '\r'
  | 't' => some '\t'
  | _ => none

/-- The code point of an escape and its length without the backslash, which stands at `position`.
The four digits of `\u` must not end the text. -/
def escape (opening position : Nat) (cs : List Char) : Except Fault (CodePoint × Nat) :=
  match cs with
  | [] => .error (.unexpected .closingQuote opening)
  | 'u' :: cs =>
    let bad := fun p => Except.error (.unexpected .unicodeEscape p)
    if cs.length < 5 then bad (position + 1)
    else match hexNumber? (cs.take 4) with
      | none => bad (position + 1)
      | some high =>
        if isHighSurrogate high && cs.length > 10 && (cs.drop 4).take 2 == ['\\', 'u'] then
          match hexNumber? ((cs.drop 6).take 4) with
          | none => bad (position + 7)
          | some low =>
            if isLowSurrogate low then
              .ok (.ofNat (0x10000 + (high - 0xD800) * 0x400 + (low - 0xDC00)), 11)
            else .ok (.ofNat high, 5)
        else .ok (.ofNat high, 5)
  | c :: _ =>
    match simpleEscape? c with
    | some d => .ok (.char d, 1)
    | none => .error (.unexpected .escape position)

def stringFrom (opening position : Nat) (cs : List Char) : Except Fault (CodePoints × Cursor) :=
  match cs with
  | [] => .error (.unexpected .closingQuote opening)
  | '"' :: cs => .ok ([], ⟨position + 1, cs⟩)
  | '\\' :: cs => do
    let (c, n) ← escape opening position cs
    let (more, after) ← stringFrom opening (position + 1 + n) (cs.drop n)
    return (c :: more, after)
  | c :: cs =>
    if c.toNat < 0x20 then .error (.unexpected .plainCharacter position)
    else do
      let (more, after) ← stringFrom opening (position + 1) cs
      return (.char c :: more, after)
termination_by cs.length
decreasing_by all_goals simp only [List.length_cons, List.length_drop]; omega

def isDigit (c : Char) : Bool := '0' ≤ c && c ≤ '9'

def digitValues (cs : List Char) : List Nat := cs.map (·.toNat - 48)

/-- A single zero, or digits without a leading zero. -/
def wholePart? : List Char → Option (List Char)
  | '0' :: _ => some ['0']
  | cs => match cs.takeWhile isDigit with
    | [] => none
    | ds => some ds

def fractionPart : List Char → List Char
  | '.' :: cs => cs.takeWhile isDigit
  | _ => []

def exponentPart? : List Char → Option (Int × Nat)
  | e :: cs =>
    if e = 'e' ∨ e = 'E' then
      let signs := match cs with
        | '+' :: _ | '-' :: _ => 1
        | _ => 0
      let ds := (cs.drop signs).takeWhile isDigit
      let n := Number.valueOf (digitValues ds)
      if ds.isEmpty then none
      else some (if cs.head? = some '-' then -(n : Int) else n, 1 + signs + ds.length)
    else none
  | [] => none

/-- An integer, or a double if there is a fraction or an exponent. -/
def number (c : Cursor) : Except Fault (Json CodePoints × Cursor) :=
  let negative := c.rest.head? = some '-'
  let start := if negative then 1 else 0
  match wholePart? (c.rest.drop start) with
  | none => c.fault .value
  | some whole =>
    let afterWhole := c.skip (start + whole.length)
    let fraction := fractionPart afterWhole.rest
    let afterFraction :=
      if fraction.isEmpty then afterWhole else afterWhole.skip (1 + fraction.length)
    match exponentPart? afterFraction.rest, fraction with
    | none, [] =>
      if whole.length > Number.maxDigits then .error (.integerTooLong whole.length)
      else
        let n : Int := Number.valueOf (digitValues whole)
        .ok (.int (if negative then -n else n), afterWhole)
    | exponent, fraction =>
      let (e, n) := exponent.getD (0, 0)
      .ok (.float (.ofDigits negative (digitValues whole) (digitValues fraction) e),
        afterFraction.skip n)

def constants : List (String × Json CodePoints) :=
  [("null", .null), ("true", .bool true), ("false", .bool false), ("NaN", .float .nan),
    ("Infinity", .float (.infinite false)), ("-Infinity", .float (.infinite true))]

def constant? (c : Cursor) : Option (Json CodePoints × Cursor) :=
  (constants.find? fun p => p.1.toList.isPrefixOf c.rest).map fun p =>
    (p.2, c.skip p.1.length)

mutual

/-- `fuel` bounds the values, items and fields still to be read, `depth` their nesting. -/
def value (fuel depth : Nat) (c : Cursor) : Except Fault (Json CodePoints × Cursor) :=
  match fuel with
  | 0 => c.fault .value
  | fuel + 1 =>
    match c.rest with
    | '"' :: cs => do
      let (s, after) ← stringFrom c.position (c.position + 1) cs
      return (.str s, after)
    | '[' :: _ =>
      if depth = 0 then .error (.tooDeep .array)
      else
        let inside := (c.skip 1).skipSpace
        match inside.rest with
        | ']' :: _ => .ok (.arr [], inside.skip 1)
        | _ => do
          let (js, after) ← items fuel (depth - 1) inside
          return (.arr js, after)
    | '\x7b' :: _ =>
      if depth = 0 then .error (.tooDeep .object)
      else
        let inside := (c.skip 1).skipSpace
        match inside.rest with
        | '\x7d' :: _ => .ok (.obj [], inside.skip 1)
        | _ => do
          let (fs, after) ← fields fuel (depth - 1) inside
          return (.ofFields fs, after)
    | _ =>
      match constant? c with
      | some r => .ok r
      | none => number c

def items (fuel depth : Nat) (c : Cursor) : Except Fault (List (Json CodePoints) × Cursor) :=
  match fuel with
  | 0 => c.fault .value
  | fuel + 1 => do
    let (j, after) ← value fuel depth c
    let after := after.skipSpace
    match after.rest with
    | ']' :: _ => return ([j], after.skip 1)
    | ',' :: _ =>
      let (js, last) ← items fuel depth (after.skip 1).skipSpace
      return (j :: js, last)
    | _ => after.fault .comma

def fields (fuel depth : Nat) (c : Cursor) :
    Except Fault (List (CodePoints × Json CodePoints) × Cursor) :=
  match fuel with
  | 0 => c.fault .name
  | fuel + 1 =>
    match c.rest with
    | '"' :: cs => do
      let (k, after) ← stringFrom c.position (c.position + 1) cs
      let colon := after.skipSpace
      match colon.rest with
      | ':' :: _ =>
        let (j, after) ← value fuel depth (colon.skip 1).skipSpace
        let after := after.skipSpace
        match after.rest with
        | '\x7d' :: _ => return ([(k, j)], after.skip 1)
        | ',' :: _ =>
          let (fs, last) ← fields fuel depth (after.skip 1).skipSpace
          return ((k, j) :: fs, last)
        | _ => after.fault .comma
      | _ => colon.fault .colon
    | _ => c.fault .name

end

/-- Reads a whole text, with arrays and objects nested at most `depth` deep. Every step consumes a
character, so the length is enough fuel. -/
def read (depth : Nat) (text : List Char) : Except Fault (Json CodePoints) :=
  if text.head? = some '\ufeff' then .error (.unexpected .noByteOrderMark 0)
  else do
    let start : Cursor := ⟨0, text⟩
    let (j, after) ← value (2 * text.length + 2) depth start.skipSpace
    let last := after.skipSpace
    if last.rest.isEmpty then return j else last.fault .nothing

end ScriptHelp.Json
