import ScriptHelp.Pattern.Reader

namespace ScriptHelp.Pattern

def below (room : Nat) (check : Nat → Except Fault Unit) : Except Fault Unit :=
  match room with
  | 0 => .error .stackExhausted
  | room + 1 => check room

/-- A look-behind needs a fixed width. -/
def checkBehindWidth (widths : List (Option Width)) (room : Nat) (body : List Node) :
    Except Fault Unit :=
  if room < 1 + widthFramesOf body then .error .stackExhausted
  else if (widthOf widths body).isFixed then .ok ()
  else .error .invalid

mutual

/-- The checks of compiling a node with `room` stack frames left. -/
def Node.compile (widths : List (Option Width)) (noRepetition : Bool) (room : Nat) :
    Node → Except Fault Unit
  | .char _ | .anchor _ | .backreference .. => .ok ()
  | .group (some _) body | .atomic body => below room (compileAll widths noRepetition · body)
  | .group none body => compileAll widths noRepetition room body
  | .choice branches => below room (compileAny widths noRepetition · branches)
  | .repetition _ _ _ body =>
    if noRepetition then .error .invalid
    else below room (compileAll widths noRepetition · body)
  | .look behind _ body => do
    if behind then checkBehindWidth widths room body
    below room (compileAll widths noRepetition · body)
  | .conditional _ yes no => below room fun room => do
    compileAll widths noRepetition room yes
    compileAll widths noRepetition room no

def compileAll (widths : List (Option Width)) (noRepetition : Bool) (room : Nat) :
    List Node → Except Fault Unit
  | [] => .ok ()
  | n :: ns => do
    n.compile widths noRepetition room
    compileAll widths noRepetition room ns

def compileAny (widths : List (Option Width)) (noRepetition : Bool) (room : Nat) :
    List (List Node) → Except Fault Unit
  | [] => .ok ()
  | b :: bs => do
    compileAll widths noRepetition room b
    compileAny widths noRepetition room bs

end

/-- The checks of measuring and compiling a pattern. The compiler starts one frame above the
measuring. -/
def compile (widths : List (Option Width)) (noRepetition : Bool) (room : Nat)
    (body : List Node) : Except Fault Unit :=
  if room < widthFramesOf body then .error .stackExhausted
  else compileAll widths noRepetition (room + 1) body

end ScriptHelp.Pattern
