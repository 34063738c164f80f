import ScriptHelp.Text.PrintableTable
import ScriptHelp.Text.Utf8

namespace ScriptHelp.Text

/-- A code point of a text that need not be well formed: a character, or an unpaired surrogate. -/
inductive CodePoint
  | char (c : Char)
  | surrogate (n : Fin 0x800)
  deriving DecidableEq, Repr

namespace CodePoint

def ofNat (n : Nat) : CodePoint :=
  if h : 0xD800 ≤ n ∧ n < 0xE000 then .surrogate ⟨n - 0xD800, by omega⟩ else .char (Char.ofNat n)

def toNat : CodePoint → Nat
  | .char c => c.toNat
  | .surrogate n => 0xD800 + n

def char? : CodePoint → Option Char
  | .char c => some c
  | .surrogate _ => none

def escape (p : CodePoint) : List Char :=
  let n := p.toNat
  if n < 0x100 then '\\' :: 'x' :: Utf8.hexDigits 2 n
  else if n < 0x10000 then '\\' :: 'u' :: Utf8.hexDigits 4 n
  else '\\' :: 'U' :: Utf8.hexDigits 8 n

def shown : CodePoint → List Char
  | .char c => [c]
  | p => p.escape

def quoted (quote : Char) : CodePoint → List Char
  | .char c =>
    if c = quote ∨ c = '\\' then ['\\', c]
    else if c = '\n' then ['\\', 'n']
    else if c = '\r' then ['\\', 'r']
    else if c = '\t' then ['\\', 't']
    else if printable.has c then [c]
    else escape (.char c)
  | p => p.escape

end CodePoint

abbrev CodePoints := List CodePoint

def codePoints (s : String) : CodePoints := s.toList.map .char

instance : Coe String CodePoints := ⟨codePoints⟩

namespace CodePoints

def text? (s : CodePoints) : Option String := (s.mapM CodePoint.char?).map String.ofList

def shown (s : CodePoints) : String := String.ofList (s.flatMap CodePoint.shown)

theorem mapM_char?_eq_some_iff {s : CodePoints} {cs : List Char} :
    s.mapM CodePoint.char? = some cs ↔ cs.map .char = s := by
  induction s generalizing cs with
  | nil => cases cs <;> simp
  | cons p s ih =>
    cases p with
    | surrogate n => cases cs <;> simp [CodePoint.char?]
    | char c =>
      cases cs with
      | nil => simp [CodePoint.char?, Option.bind_eq_some_iff]
      | cons d ds =>
        have hcomm : d = c ↔ c = d := eq_comm
        simp [CodePoint.char?, Option.bind_eq_some_iff, ih, hcomm, and_left_comm]

theorem text?_eq_some_iff {s : CodePoints} {t : String} : s.text? = some t ↔ codePoints t = s := by
  rw [text?, Option.map_eq_some_iff]
  constructor
  · rintro ⟨cs, hcs, rfl⟩
    rw [codePoints, String.toList_ofList, mapM_char?_eq_some_iff.mp hcs]
  · intro h
    exact ⟨t.toList, mapM_char?_eq_some_iff.mpr h, String.ofList_toList⟩

@[simp] theorem text?_codePoints (s : String) : text? (codePoints s) = some s :=
  text?_eq_some_iff.mpr rfl

theorem codePoints_inj {s t : String} : codePoints s = codePoints t ↔ s = t := by
  rw [← text?_eq_some_iff, text?_codePoints, Option.some.injEq, eq_comm]

end CodePoints

/-- The single quote, unless the text contains it and no double quote. -/
def quoteFor (s : CodePoints) : Char :=
  if s.contains (.char '\'') && !s.contains (.char '"') then '"' else '\''

def quoted (s : CodePoints) : String :=
  let q := quoteFor s
  String.ofList (q :: s.flatMap (CodePoint.quoted q) ++ [q])

end ScriptHelp.Text
