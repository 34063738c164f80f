import ScriptHelp.Text.CharacterNames.Further
import ScriptHelp.Text.CharacterNames.From0020
import ScriptHelp.Text.CharacterNames.From1252
import ScriptHelp.Text.CharacterNames.From2399
import ScriptHelp.Text.CharacterNames.FromA015
import ScriptHelp.Text.CharacterNames.FromFFFB
import ScriptHelp.Text.CharacterNames.From119A6
import ScriptHelp.Text.CharacterNames.From169A5
import ScriptHelp.Text.CharacterNames.From1D932
import ScriptHelp.Text.Basic
import ScriptHelp.Text.Utf8

namespace ScriptHelp.Text

/-- The state of reading a table: the code point of the next name, the words of the last one, and
the code point of the wanted name once found. -/
structure NameReader where
  code : Nat := 0
  last : List (List Char) := []
  found : Option Nat := none

def hexValue (cs : List Char) : Nat :=
  cs.foldl (fun n c => 16 * n + (if c.isDigit then c.toNat - 48 else c.toNat - 55)) 0

def NameReader.step (target : List (List Char)) (r : NameReader) : List Char → NameReader
  | '+' :: hex => { r with code := hexValue hex }
  | shared :: new =>
    let name := r.last.take (shared.toNat - 48) ++ pieces (· = ' ') new
    ⟨r.code + 1, name, if name == target then r.found <|> some r.code else r.found⟩
  | [] => r

def nameTables : List String := [
    CharacterNames.further, CharacterNames.from0020, CharacterNames.from1252,
    CharacterNames.from2399, CharacterNames.fromA015, CharacterNames.fromFFFB,
    CharacterNames.from119A6, CharacterNames.from169A5, CharacterNames.from1D932]

def listedCode? (name : List Char) : Option Nat :=
  let target := pieces (· = ' ') name
  nameTables.findSome? fun table =>
    ((pieces (· = ';') (table.toList.filter (· ≠ '\n'))).foldl (NameReader.step target) {}).found

/-- Characters whose names end in their code points, by the part before. -/
def numberedNames : List (String × Ranges) := [
    ("CJK COMPATIBILITY IDEOGRAPH-", [(0xF900, 0xFA6D), (0xFA70, 0xFAD9), (0x2F800, 0x2FA1D)]),
    ("KHITAN SMALL SCRIPT CHARACTER-", [(0x18B00, 0x18CD5)]),
    ("NUSHU CHARACTER-", [(0x1B170, 0x1B2FB)])]

/-- Unified Han characters, whose names must be uppercase. -/
def hanRanges : Ranges := [
    (0x3400, 0x4DBF), (0x4E00, 0x9FFF), (0x20000, 0x2A6DF), (0x2A700, 0x2B738), (0x2B740, 0x2B81D),
    (0x2B820, 0x2CEA1), (0x2CEB0, 0x2EBE0), (0x30000, 0x3134A)]

def upperHex (n : Nat) : List Char :=
  (Utf8.hexDigits (if n < 0x10000 then 4 else 5) n).map Char.toUpper

def numberedCode? (before : String) (ranges : Ranges) (name : List Char) : Option Nat :=
  if before.toList.isPrefixOf name then
    let hex := name.drop before.length
    let n := hexValue hex
    if upperHex n == hex && ranges.any (fun r => r.1 ≤ n && n ≤ r.2) then some n else none
  else none

def initialConsonants : List String := [
    "G", "GG", "N", "D", "DD", "R", "M", "B", "BB", "S", "SS", "", "J", "JJ", "C", "K", "T", "P",
    "H"]

def vowels : List String := [
    "A", "AE", "YA", "YAE", "EO", "E", "YEO", "YE", "O", "WA", "WAE", "OE", "YO", "U", "WEO", "WE",
    "WI", "YU", "EU", "YI", "I"]

def finalConsonants : List String := [
    "", "G", "GG", "GS", "N", "NJ", "NH", "D", "L", "LG", "LM", "LB", "LS", "LT", "LP", "LH", "M",
    "B", "BS", "S", "SS", "NG", "J", "C", "K", "T", "P", "H"]

/-- Hangul syllables are named by their jamo. -/
def syllableCode? (name : List Char) : Option Nat :=
  let before := "HANGUL SYLLABLE ".toList
  if before.isPrefixOf name then
    let sounds := String.ofList (name.drop before.length)
    (List.range 399).findSome? fun i =>
      let opening := initialConsonants.getD (i / 21) "" ++ vowels.getD (i % 21) ""
      (finalConsonants.findIdx? fun f => opening ++ f == sounds).map fun f => 0xAC00 + 28 * i + f
  else none

def selectorCode? (name : List Char) : Option Nat :=
  match name with
  | 'V' :: 'S' :: c :: cs =>
    let ds := c :: cs
    let n := ds.foldl (fun n d => 10 * n + (d.toNat - 48)) 0
    if !ds.all Char.isDigit || c = '0' || n > 256 then none
    else if n ≤ 16 then some (0xFE00 + n - 1) else some (0xE0100 + n - 17)
  | _ => none

/-- The code point of a named character. Listed names count in any case. -/
def characterNamed? (name : List Char) : Option Nat :=
  let upper := name.map Char.toUpper
  syllableCode? name <|> numberedCode? "CJK UNIFIED IDEOGRAPH-" hanRanges name
    <|> numberedNames.findSome? (fun p => numberedCode? p.1 p.2 upper)
    <|> selectorCode? upper <|> listedCode? upper

end ScriptHelp.Text
