namespace ScriptHelp

abbrev Bytes := List UInt8

namespace Text.Utf8

inductive Reason
  | startByte
  | continuationByte
  | endOfData
  deriving DecidableEq, Repr

def Reason.text : Reason → String
  | .startByte => "invalid start byte"
  | .continuationByte => "invalid continuation byte"
  | .endOfData => "unexpected end of data"

/-- The bytes at fault start at `position`; `first` is the byte there. -/
structure Fault where
  position : Nat
  first : UInt8
  count : Nat
  reason : Reason
  deriving DecidableEq, Repr

def hexDigit (n : Nat) : Char := "0123456789abcdef".toList.getD n '0'

def hexDigits : (width : Nat) → Nat → List Char
  | 0, _ => []
  | w + 1, n => hexDigits w (n / 16) ++ [hexDigit (n % 16)]

def Fault.message (f : Fault) : String :=
  if f.count = 1 then
    "'utf-8' codec can't decode byte 0x" ++ String.ofList (hexDigits 2 f.first.toNat)
      ++ s!" in position {f.position}: " ++ f.reason.text
  else
    s!"'utf-8' codec can't decode bytes in position {f.position}-{f.position + f.count - 1}: "
      ++ f.reason.text

/-- What must follow a first byte: its share of the code point, and the bounds of each byte after
it. The bounds of the second byte exclude overlong forms, surrogates and numbers above U+10FFFF. -/
def lead (b : Nat) : Option (Nat × List (Nat × Nat)) :=
  let tail := (0x80, 0xBF)
  if b < 0x80 then some (b, [])
  else if b < 0xC2 then none
  else if b < 0xE0 then some (b - 0xC0, [tail])
  else if b = 0xE0 then some (0, [(0xA0, 0xBF), tail])
  else if b = 0xED then some (0xD, [(0x80, 0x9F), tail])
  else if b < 0xF0 then some (b - 0xE0, [tail, tail])
  else if b = 0xF0 then some (0, [(0x90, 0xBF), tail, tail])
  else if b < 0xF4 then some (b - 0xF0, [tail, tail, tail])
  else if b = 0xF4 then some (4, [(0x80, 0x8F), tail, tail])
  else none

/-- Takes one byte for each pair of bounds. A failure gives the number of valid bytes, including the
first. -/
def tails (code taken : Nat) : List (Nat × Nat) → Bytes → Except (Nat × Reason) (Nat × Bytes)
  | [], rest => .ok (code, rest)
  | _ :: _, [] => .error (taken, .endOfData)
  | (lo, hi) :: more, b :: rest =>
    if lo ≤ b.toNat ∧ b.toNat ≤ hi then tails (code * 64 + b.toNat % 64) (taken + 1) more rest
    else .error (taken, .continuationByte)

theorem tails_length {bounds : List (Nat × Nat)} {code taken : Nat} {bs : Bytes} {r : Nat × Bytes}
    (h : tails code taken bounds bs = .ok r) : r.2.length ≤ bs.length := by
  induction bounds generalizing code taken bs with
  | nil => simp only [tails, Except.ok.injEq] at h; subst h; exact Nat.le_refl _
  | cons p more ih =>
    obtain ⟨lo, hi⟩ := p
    cases bs with
    | nil => simp [tails] at h
    | cons b rest =>
      simp only [tails] at h
      split at h
      · exact Nat.le_succ_of_le (ih h)
      · cases h

def decodeFrom (position : Nat) (bs : Bytes) : Except Fault (List Char) :=
  match bs with
  | [] => .ok []
  | b :: rest =>
    match lead b.toNat with
    | none => .error ⟨position, b, 1, .startByte⟩
    | some (code, bounds) =>
      match h : tails code 1 bounds rest with
      | .error (count, reason) => .error ⟨position, b, count, reason⟩
      | .ok (full, after) => do
        have : after.length < rest.length + 1 := Nat.lt_succ_of_le (tails_length h)
        let cs ← decodeFrom (position + (rest.length + 1 - after.length)) after
        return Char.ofNat full :: cs
termination_by bs.length

def decode (bs : Bytes) : Except Fault (List Char) := decodeFrom 0 bs

def encode (s : String) : Bytes := s.toUTF8.toList

end Text.Utf8

end ScriptHelp
