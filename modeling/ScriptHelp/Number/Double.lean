namespace ScriptHelp.Number

/-- `finite s m q` is `m * 2 ^ q`, negated if `s`; after rounding `m < 2 ^ 53` and `-1074 ≤ q ≤
971`. -/
inductive Double
  | nan
  | infinite (negative : Bool)
  | finite (negative : Bool) (m : Nat) (q : Int)
  deriving DecidableEq, Repr

namespace Double

/-- The quotient rounded to an integer, ties to even. -/
def roundQuotient (num den : Nat) : Nat :=
  let n := num / den
  let r := num % den
  if 2 * r > den ∨ (2 * r = den ∧ n % 2 = 1) then n + 1 else n

def powers (b : Nat) (e : Int) : Nat × Nat := (Nat.pow b e.toNat, Nat.pow b (-e).toNat)

def ofQuotient (negative : Bool) (num den : Nat) : Double :=
  let l : Int := (Nat.log2 num : Int) - (Nat.log2 den : Int)
  let (up, down) := powers 2 l
  let q := max (-1074) (if num * down ≥ den * up then l - 52 else l - 53)
  let (up, down) := powers 2 q
  let m := roundQuotient (num * down) (den * up)
  let (m, q) := if m = Nat.pow 2 53 then (Nat.pow 2 52, q + 1) else (m, q)
  if q > 971 then .infinite negative else .finite negative m q

def countDigits (n : Nat) : Nat := (Nat.toDigits 10 n).length

/-- The double nearest to `n * 10 ^ e`. Far out of range no power is computed. -/
def ofDecimal (negative : Bool) (n : Nat) (e : Int) : Double :=
  if n = 0 then .finite negative 0 (-1074)
  else if (countDigits n : Int) + e > 310 then .infinite negative
  else if (countDigits n : Int) + e < -330 then .finite negative 0 (-1074)
  else
    let (up, down) := powers 10 e
    ofQuotient negative (n * up) down

def quotient? : Double → Option (Int × Nat)
  | .finite negative m q =>
    let (up, down) := powers 2 q
    some (if negative then -(m * up : Nat) else (m * up : Nat), down)
  | _ => none

def whole? (x : Double) : Option Int :=
  (quotient? x).bind fun (n, d) => if n % d = 0 then some (n / d) else none

def lt : Double → Double → Bool
  | .nan, _ => false
  | _, .nan => false
  | .infinite a, .infinite b => a && !b
  | .infinite a, .finite .. => a
  | .finite .., .infinite b => !b
  | .finite a m q, .finite b m' q' =>
    match quotient? (.finite a m q), quotient? (.finite b m' q') with
    | some (x, d), some (y, d') => decide (x * d' < y * d)
    | _, _ => false

end Double

end ScriptHelp.Number
