import ScriptHelp.Text.Whitespace
import ScriptHelp.Text.WordTable

namespace ScriptHelp.Number

open Text

def digit? (c : Char) : Option Nat :=
  (decimalZeros.find? fun z => c.toNat ≤ z + 9).bind fun z =>
    if z ≤ c.toNat then some (c.toNat - z) else none

/-- Whitespace that a numeral may be padded with, which excludes the four separator controls. -/
def isPadding (c : Char) : Bool := isWhitespace c && !(0x1C ≤ c.toNat && c.toNat ≤ 0x1F)

def unpad (cs : List Char) : List Char :=
  ((cs.dropWhile isPadding).reverse.dropWhile isPadding).reverse

/-- The digits after a first one, each with an optional underscore before it, and the rest. -/
def moreDigits : List Char → List Nat × List Char
  | '_' :: c :: cs =>
    match digit? c with
    | some d => let r := moreDigits cs; (d :: r.1, r.2)
    | none => ([], '_' :: c :: cs)
  | c :: cs =>
    match digit? c with
    | some d => let r := moreDigits cs; (d :: r.1, r.2)
    | none => ([], c :: cs)
  | [] => ([], [])

def digitRun : List Char → List Nat × List Char
  | c :: cs =>
    match digit? c with
    | some d => let r := moreDigits cs; (d :: r.1, r.2)
    | none => ([], c :: cs)
  | [] => ([], [])

def valueOf (ds : List Nat) : Nat := ds.foldl (fun n d => 10 * n + d) 0

def signed : List Char → Bool × List Char
  | '-' :: cs => (true, cs)
  | '+' :: cs => (false, cs)
  | cs => (false, cs)

def maxDigits : Nat := 4300

inductive IntegerFault
  | malformed
  | tooLong (digits : Nat)
  deriving DecidableEq, Repr

def tooLongText (digits : Nat) : String :=
  s!"Exceeds the limit ({maxDigits} digits) for integer string conversion: value has {digits} "
    ++ "digits; use sys.set_int_max_str_digits() to increase the limit"

def readInteger (s : String) : Except IntegerFault Int :=
  let (negative, cs) := signed (unpad s.toList)
  match digitRun cs with
  | ([], _) => .error .malformed
  | (ds, rest) =>
    if rest.isEmpty then
      if ds.length > maxDigits then .error (.tooLong ds.length)
      else .ok (if negative then -valueOf ds else valueOf ds)
    else .error .malformed

end ScriptHelp.Number
