namespace ScriptHelp

/-- A result and the number of the load that made it, counted from zero. -/
structure Numbered (α : Type) where
  load : Nat
  value : α

structure Service (α : Type) where
  current : Option (Numbered α) := none
  loads : Nat := 0

/-- A caller wants whatever is current, or the result of a load of its own. -/
inductive Wish
  | current
  | fresh
  deriving DecidableEq, Repr

namespace Service

def finish (s : Service α) (n : Nat) : Except String α → Service α
  | .ok a => { s with current := some ⟨n, a⟩ }
  | .error _ => s

def loadNow (outcome : Nat → Except String α) (s : Service α) : Except String α × Service α :=
  let result := outcome s.loads
  (result, { s with loads := s.loads + 1 }.finish s.loads result)

/-- Serves a single caller; `outcome n` is what load `n` yields. -/
def serve (outcome : Nat → Except String α) (s : Service α) : Wish → Except String α × Service α
  | .fresh => s.loadNow outcome
  | .current => match s.current with
    | some x => (.ok x.value, s)
    | none => s.loadNow outcome

/-- Serves one of several concurrent callers. One who found a result on arrival (`door`) takes it,
and the others are served alone in their turn. -/
def serveFrom (outcome : Nat → Except String α) (door : Option (Numbered α)) (s : Service α)
    (w : Wish) : Except String α × Service α :=
  match w, door with
  | .current, some x => (.ok x.value, s)
  | _, _ => s.serve outcome w

def reset (s : Service α) : Service α := { s with current := none }

end Service

end ScriptHelp
