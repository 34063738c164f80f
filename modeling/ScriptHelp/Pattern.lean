import ScriptHelp.Pattern.Grammar
import ScriptHelp.Pattern.Match

namespace ScriptHelp

structure Pattern where
  body : List Pattern.Node
  widths : List (Option Pattern.Width)
  /-- The flag of the whole pattern. -/
  ascii : Bool

namespace Pattern

def Fault.family : Fault → String
  | .invalid => "error"
  | .repetitionTooLarge | .codePointTooLarge => "OverflowError"
  | .numberTooLong _ | .clashingOptions => "ValueError"
  | .stackExhausted => "RecursionError"

def Fault.message : Fault → String
  | .invalid => "invalid pattern"
  | .repetitionTooLarge => "the repetition number is too large"
  | .codePointTooLarge => "Python int too large to convert to C int"
  | .numberTooLong n => Number.tooLongText n
  | .clashingOptions => "ASCII and UNICODE flags are incompatible"
  | .stackExhausted => "maximum recursion depth exceeded"

/-- Parses and compiles a pattern with `room` stack frames left for its nesting. -/
def ofString (room : Nat) (s : String) : Except Fault Pattern := do
  let (tokens, endsInBackslash) := tokensOf s.toList
  let reader : Reader := ⟨tokens, endsInBackslash, .initial, false, false, [], [], none, 0, room⟩
  let (body, r) ← Read.whole.run reader
  return ⟨body, r.widths, r.options.ascii⟩

def occursIn (p : Pattern) (s : String) : Bool :=
  let text := s.toList.toArray
  (List.range (text.size + 1)).any fun start =>
    mayStart p.ascii p.body text[start]? &&
      (tryAll text p.widths p.body ⟨start, []⟩ some).isSome

def taken? (p : Pattern) (s : String) : Option Nat :=
  (tryAll s.toList.toArray p.widths p.body ⟨0, []⟩ some).map Spot.position

end Pattern

end ScriptHelp
