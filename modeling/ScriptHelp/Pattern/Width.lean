import ScriptHelp.Pattern.Node

namespace ScriptHelp.Pattern

structure Width where
  least : Nat
  most : Option Nat
  deriving DecidableEq, Repr

namespace Width

def zero : Width := ⟨0, some 0⟩

def add (a b : Width) : Width :=
  ⟨a.least + b.least, a.most.bind fun x => b.most.map (x + ·)⟩

def either (a b : Width) : Width :=
  ⟨min a.least b.least, a.most.bind fun x => b.most.map (max x ·)⟩

/-- Repeating zero times, or an empty part without bound, has width zero. -/
def times (a : Width) (min : Nat) (max : Option Nat) : Width :=
  ⟨a.least * min,
    if a.most = some 0 ∨ max = some 0 then some 0 else a.most.bind fun x => max.map (x * ·)⟩

def maxBehind : Nat := Nat.pow 2 32 - 1

def isFixed (w : Width) : Bool := w.most = some w.least && w.least ≤ maxBehind

end Width

def groupWidth (widths : List (Option Width)) (group : Nat) : Width :=
  ((widths[group - 1]?).join).getD .zero

mutual

def Node.width (widths : List (Option Width)) : Node → Width
  | .char _ => ⟨1, some 1⟩
  | .anchor _ => .zero
  | .group _ body => widthOf widths body
  | .choice branches => widthOfAny widths branches
  | .repetition _ min max body => (widthOf widths body).times min max
  | .backreference _ g => groupWidth widths g
  | .look .. => .zero
  | .atomic body => widthOf widths body
  | .conditional _ yes no => (widthOf widths yes).either (widthOf widths no)

def widthOf (widths : List (Option Width)) : List Node → Width
  | [] => .zero
  | n :: ns => (n.width widths).add (widthOf widths ns)

def widthOfAny (widths : List (Option Width)) : List (List Node) → Width
  | [] => .zero
  | [b] => widthOf widths b
  | b :: bs => (widthOf widths b).either (widthOfAny widths bs)

end

mutual

/-- The stack frames that measuring a node takes. A capturing group has been measured already. -/
def Node.widthFrames : Node → Nat
  | .char _ | .anchor _ | .backreference .. | .look .. => 0
  | .group (some _) _ => 1
  | .group none body => widthFramesOf body
  | .choice branches => 1 + widthFramesOfAny branches
  | .repetition _ _ _ body | .atomic body => 1 + widthFramesOf body
  | .conditional _ yes no => 1 + max (widthFramesOf yes) (widthFramesOf no)

def widthFramesOf : List Node → Nat
  | [] => 0
  | n :: ns => max n.widthFrames (widthFramesOf ns)

def widthFramesOfAny : List (List Node) → Nat
  | [] => 0
  | b :: bs => max (widthFramesOf b) (widthFramesOfAny bs)

end

end ScriptHelp.Pattern
