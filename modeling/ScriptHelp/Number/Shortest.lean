import ScriptHelp.Number.Double
import ScriptHelp.Number.Digits

namespace ScriptHelp.Number.Double

/-- The integer part `c` of `num / den / 10 ^ p`, and whether `c * 10 ^ p` is at least as near to
the quotient as its successor, ties to even. -/
def neighbours (num den : Nat) (p : Int) : Nat × Bool :=
  let (up, down) := powers 10 p
  let n := num * down
  let d := den * up
  let r := 2 * (n % d)
  (n / d, r < d || (r == d && n / d % 2 == 0))

/-- The position of the first significant digit: `10 ^ e ≤ num / den < 10 ^ (e + 1)`. -/
def leadingPlace (num den : Nat) : Int :=
  if num ≥ den then (countDigits (num / den) : Int) - 1
  else (countDigits (num * Nat.pow 10 400 / den) : Int) - 401

/-- Tries `k` digits, then more, while `fuel` lasts; 17 digits always suffice. -/
def shortestFrom (m : Nat) (q : Int) (num den : Nat) (place : Int) : (fuel k : Nat) → Nat × Int
  | 0, _ => (num / den, 0)
  | fuel + 1, k =>
    let p := place - (k : Int) + 1
    let (c, lowerIsNearer) := neighbours num den p
    let fits := fun c => ofDecimal false c p == .finite false m q
    let both := if lowerIsNearer then [c, c + 1] else [c + 1, c]
    match both.find? fits with
    | some c => (c, p)
    | none => shortestFrom m q num den place fuel (k + 1)

/-- Digits `c` and a place `p` so that `c * 10 ^ p` reads back as `m * 2 ^ q`, for `0 < m`. -/
def shortest (m : Nat) (q : Int) : Nat × Int :=
  let (num, den) := powers 2 q
  shortestFrom m q (m * num) den (leadingPlace (m * num) den) 17 1

def dropTrailingZeros (ds : List Char) : List Char :=
  (ds.reverse.dropWhile (· = '0')).reverse

/-- Positional from `1e-4` up to below `1e16`, integers with `.0`; scientific elsewhere, with at
least two digits in the exponent. -/
def layOut (ds : List Char) (place : Int) : List Char :=
  if -4 ≤ place ∧ place < 0 then
    ['0', '.'] ++ List.replicate ((-place).toNat - 1) '0' ++ ds
  else if 0 ≤ place ∧ place < 16 then
    let whole := place.toNat + 1
    if ds.length ≤ whole then ds ++ List.replicate (whole - ds.length) '0' ++ ['.', '0']
    else ds.take whole ++ ['.'] ++ ds.drop whole
  else
    let e := (Nat.toDigits 10 place.natAbs)
    let e := if e.length < 2 then '0' :: e else e
    let mantissa := match ds with
      | [d] => [d]
      | d :: more => d :: '.' :: more
      | [] => []
    mantissa ++ ['e', if place < 0 then '-' else '+'] ++ e

def text : Double → String
  | .nan => "nan"
  | .infinite negative => if negative then "-inf" else "inf"
  | .finite negative m q =>
    let body :=
      if m = 0 then ['0', '.', '0']
      else
        let (c, p) := shortest m q
        let all := Nat.toDigits 10 c
        layOut (dropTrailingZeros all) (p + (all.length : Int) - 1)
    String.ofList (if negative then '-' :: body else body)

def ofDigits (negative : Bool) (whole fraction : List Nat) (exponent : Int) : Double :=
  ofDecimal negative (valueOf (whole ++ fraction)) (exponent - fraction.length)

def readExponent? : List Char → Option Int
  | [] => some 0
  | c :: cs =>
    if c = 'e' ∨ c = 'E' then
      let (negative, cs) := signed cs
      match digitRun cs with
      | ([], _) => none
      | (ds, rest) =>
        if rest.isEmpty then some (if negative then -(valueOf ds) else valueOf ds) else none
    else none

def asciiLower (cs : List Char) : String := String.ofList (cs.map Char.toLower)

/-- Reads a numeral, or `inf`, `infinity` or `nan` in any case. -/
def read? (s : String) : Option Double :=
  let (negative, cs) := signed (unpad s.toList)
  match asciiLower cs with
  | "inf" | "infinity" => some (.infinite negative)
  | "nan" => some .nan
  | _ =>
    let (whole, rest) := digitRun cs
    let (fraction, rest) := match rest with
      | '.' :: rest => digitRun rest
      | _ => ([], rest)
    if whole.isEmpty && fraction.isEmpty then none
    else (readExponent? rest).map (ofDigits negative whole fraction)

end ScriptHelp.Number.Double
