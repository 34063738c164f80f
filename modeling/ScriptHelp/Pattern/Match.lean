import ScriptHelp.Pattern.Width

namespace ScriptHelp.Pattern

/-- A position in the text, with the captures on this path of the search. -/
structure Spot where
  position : Nat
  captures : List (Nat × Nat × Nat)
  deriving DecidableEq, Repr

namespace Spot

def capture? (s : Spot) (group : Nat) : Option (Nat × Nat) := s.captures.lookup group

def close (s : Spot) (group start : Nat) : Spot :=
  { s with captures := (group, start, s.position) :: s.captures }

end Spot

/-- A continuation: where the whole match ends if it succeeds from a spot. -/
abbrev Rest := Spot → Option Spot

abbrev Part := Spot → Rest → Option Spot

/-- Another iteration is possible unless none is left or the last one was empty. -/
def mayRepeat (more last : Option Nat) (s : Spot) : Bool :=
  more != some 0 && last != some s.position

/-- Iterates greedily with backtracking. Every iteration but the last consumes a character, so the
length of the text is enough fuel. -/
def greedily (part : Part) (rest : Rest) : (fuel : Nat) → (more last : Option Nat) → Rest
  | 0, _, _, s => rest s
  | fuel + 1, more, last, s =>
    if mayRepeat more last s then
      match part s (greedily part rest fuel (more.map (· - 1)) (some s.position)) with
      | some r => some r
      | none => rest s
    else rest s

def reluctantly (part : Part) (rest : Rest) : (fuel : Nat) → (more last : Option Nat) → Rest
  | 0, _, _, s => rest s
  | fuel + 1, more, last, s =>
    match rest s with
    | some r => some r
    | none =>
      if mayRepeat more last s then
        part s (reluctantly part rest fuel (more.map (· - 1)) (some s.position))
      else none

def exactly (part : Part) (rest : Rest) : Nat → Rest
  | 0, s => rest s
  | n + 1, s => part s (exactly part rest n)

/-- The first match of the part on its own, without backtracking into it. -/
def alone (part : Part) (s : Spot) : Option Spot := part s some

def exactlyAlone (part : Part) : Nat → Rest
  | 0, s => some s
  | n + 1, s =>
    match alone part s with
    | some s' => exactlyAlone part n s'
    | none => none

def greedilyAlone (part : Part) : (fuel : Nat) → (more last : Option Nat) → Spot → Spot
  | 0, _, _, s => s
  | fuel + 1, more, last, s =>
    if mayRepeat more last s then
      match alone part s with
      | some s' => greedilyAlone part fuel (more.map (· - 1)) (some s.position) s'
      | none => s
    else s

def repeating (greed : Greed) (min : Nat) (max : Option Nat) (fuel : Nat) (part : Part) : Part :=
  fun s rest =>
    let more := max.map (· - min)
    match greed with
    | .greedy => exactly part (greedily part rest fuel more none) min s
    | .reluctant => exactly part (reluctantly part rest fuel more none) min s
    | .possessive =>
      match exactlyAlone part min s with
      | some s' => rest (greedilyAlone part fuel more none s')
      | none => none

def isWordAt (text : Array Char) (asciiOnly : Bool) (position : Nat) : Bool :=
  match text[position]? with
  | some c => Category.word.has asciiOnly c
  | none => false

def atBoundary (text : Array Char) (asciiOnly : Bool) (position : Nat) : Bool :=
  (position != 0 && isWordAt text asciiOnly (position - 1)) != isWordAt text asciiOnly position

/-- In an empty text neither `\b` nor `\B` matches. -/
def Anchor.holds (text : Array Char) (position : Nat) : Anchor → Bool
  | .textStart => position == 0
  | .textEnd => position == text.size
  | .lineStart => position == 0 || text[position - 1]? == some '\n'
  | .lineEnd => position == text.size || text[position]? == some '\n'
  | .lastLineEnd =>
    position == text.size || (position + 1 == text.size && text[position]? == some '\n')
  | .boundary asciiOnly => text.size != 0 && atBoundary text asciiOnly position
  | .noBoundary asciiOnly => text.size != 0 && !atBoundary text asciiOnly position

def sameAt (text : Array Char) (rule : CaseRule) (start position : Nat) : Nat → Bool
  | 0 => true
  | n + 1 =>
    match text[start]?, text[position]? with
    | some a, some b =>
      rule.lowerCode a.toNat == rule.lowerCode b.toNat &&
        sameAt text rule (start + 1) (position + 1) n
    | _, _ => false

mutual

def Node.attempt (text : Array Char) (widths : List (Option Width)) : Node → Part
  | .char t => fun s rest =>
    match text[s.position]? with
    | some c => if t.has c then rest { s with position := s.position + 1 } else none
    | none => none
  | .anchor a => fun s rest => if a.holds text s.position then rest s else none
  | .group none body => fun s rest => tryAll text widths body s rest
  | .group (some g) body => fun s rest =>
    tryAll text widths body s fun s' => rest (s'.close g s.position)
  | .choice branches => fun s rest => tryAny text widths branches s rest
  | .repetition greed min max body =>
    repeating greed min max (text.size + 2) (fun s rest => tryAll text widths body s rest)
  | .backreference rule g => fun s rest =>
    match s.capture? g with
    | some (start, stop) =>
      if sameAt text rule start s.position (stop - start) then
        rest { s with position := s.position + (stop - start) }
      else none
    | none => none
  | .look behind negated body => fun s rest =>
    let back := if behind then (widthOf widths body).least else 0
    let found :=
      if back ≤ s.position then
        tryAll text widths body { s with position := s.position - back } some
      else none
    match found, negated with
    | some s', false => rest { s' with position := s.position }
    | none, true => rest s
    | _, _ => none
  | .atomic body => fun s rest =>
    match tryAll text widths body s some with
    | some s' => rest s'
    | none => none
  | .conditional g yes no => fun s rest =>
    match s.capture? g with
    | some _ => tryAll text widths yes s rest
    | none => tryAll text widths no s rest

def tryAll (text : Array Char) (widths : List (Option Width)) : List Node → Part
  | [] => fun s rest => rest s
  | n :: ns => fun s rest => n.attempt text widths s fun s' => tryAll text widths ns s' rest

def tryAny (text : Array Char) (widths : List (Option Width)) : List (List Node) → Part
  | [] => fun _ _ => none
  | b :: bs => fun s rest =>
    match tryAll text widths b s rest with
    | some r => some r
    | none => tryAny text widths bs s rest

end

mutual

/-- The set that the first character of a match is looked for in, unless case matters to a member.
Its categories are those of the whole pattern, even in a group with a flag of its own. -/
def Node.startSet? (ascii : Bool) : Node → Option CharTest
  | .char (.set rule _ negated members) =>
    if members.any (·.isCased rule) then none else some (.set .exact ascii negated members)
  | .group _ body => startSet? ascii body
  | .choice branches => startSetOfOnly? ascii branches
  | _ => none

def startSet? (ascii : Bool) : List Node → Option CharTest
  | n :: _ => n.startSet? ascii
  | [] => none

/-- A group with flags of its own is a choice of one branch. -/
def startSetOfOnly? (ascii : Bool) : List (List Node) → Option CharTest
  | [b] => startSet? ascii b
  | _ => none

end

def mayStart (ascii : Bool) (body : List Node) (next : Option Char) : Bool :=
  match startSet? ascii body, next with
  | some t, some c => t.has c
  | some _, none => false
  | none, _ => true

end ScriptHelp.Pattern
