import ScriptHelp.Text.Basic

namespace ScriptHelp.Text

def whitespaceRanges : Ranges :=
  [(0x09, 0x0D), (0x1C, 0x20), (0x85, 0x85), (0xA0, 0xA0), (0x1680, 0x1680), (0x2000, 0x200A),
    (0x2028, 0x2029), (0x202F, 0x202F), (0x205F, 0x205F), (0x3000, 0x3000)]

def isWhitespace (c : Char) : Bool := whitespaceRanges.has c

def trim (cs : List Char) : List Char :=
  ((cs.dropWhile isWhitespace).reverse.dropWhile isWhitespace).reverse

/-- The open word at the left end of a text, and the finished words after it. -/
abbrev OpenWords := List Char × List (List Char)

def OpenWords.close : OpenWords → List (List Char)
  | ([], ws) => ws
  | (w, ws) => w :: ws

def OpenWords.push (c : Char) (o : OpenWords) : OpenWords :=
  if isWhitespace c then ([], o.close) else (c :: o.1, o.2)

/-- The maximal runs of non-whitespace characters, in order. -/
def wordList (cs : List Char) : List (List Char) := (cs.foldr OpenWords.push ([], [])).close

def strip (s : String) : String := String.ofList (trim s.toList)

def strip? (s : String) : Option String :=
  let t := strip s
  if t = "" then none else some t

def words (s : String) : List String := (wordList s.toList).map String.ofList

/-- The words joined by single spaces. -/
def collapse (s : String) : String := String.intercalate " " (words s)

end ScriptHelp.Text
