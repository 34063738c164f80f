import ScriptHelp.Service.Basic

namespace ScriptHelp

inductive Stage (α : Type)
  | arriving
  | waiting (lock : Nat)
  | loading (lock load : Nat)
  | served (result : Except String (Numbered α))

structure Caller (α : Type) where
  wish : Wish
  stage : Stage α := .arriving

structure Crowd (α : Type) where
  service : Service α
  /-- Which of the locks created so far are taken. New callers use the last one. -/
  locks : List Bool := [false]
  callers : List (Caller α) := []

/-- A new caller arrives, a caller advances, or the service is reset. -/
inductive Move
  | call (w : Wish)
  | advance (caller : Nat)
  | reset
  deriving DecidableEq, Repr

namespace Crowd

def newestLock (c : Crowd α) : Nat := c.locks.length - 1

def isTaken (c : Crowd α) (lock : Nat) : Bool := (c.locks[lock]?).getD false

def setStage (c : Crowd α) (i : Nat) (s : Stage α) : List (Caller α) :=
  c.callers.modify i fun d => { d with stage := s }

def serve (c : Crowd α) (i : Nat) (r : Except String (Numbered α)) : Crowd α :=
  { c with callers := c.setStage i (.served r) }

def queue (c : Crowd α) (i : Nat) : Crowd α :=
  { c with callers := c.setStage i (.waiting c.newestLock) }

def startLoad (c : Crowd α) (i lock : Nat) : Crowd α where
  service := { c.service with loads := c.service.loads + 1 }
  locks := c.locks.set lock true
  callers := c.setStage i (.loading lock c.service.loads)

/-- The caller releases the lock, whatever the load has yielded. -/
def finishLoad (c : Crowd α) (i lock n : Nat) (r : Except String α) : Crowd α where
  service := c.service.finish n r
  locks := c.locks.set lock false
  callers := c.setStage i (.served (r.map fun a => ⟨n, a⟩))

def ready? (c : Crowd α) : Wish → Option (Numbered α)
  | .current => c.service.current
  | .fresh => none

/-- The next step of a caller; one that waits for a taken lock stays as it is. A caller that finds a
result once it has the lock releases it at once. -/
def advance (outcome : Nat → Except String α) (c : Crowd α) (i : Nat) : Crowd α :=
  match c.callers[i]? with
  | none => c
  | some d => match d.stage, c.ready? d.wish with
    | .arriving, some x => c.serve i (.ok x)
    | .arriving, none => c.queue i
    | .waiting lock, r =>
      if c.isTaken lock then c
      else match r with
        | some x => c.serve i (.ok x)
        | none => c.startLoad i lock
    | .loading lock n, _ => c.finishLoad i lock n (outcome n)
    | .served _, _ => c

def reset (c : Crowd α) : Crowd α :=
  { c with service := c.service.reset, locks := c.locks ++ [false] }

def move (outcome : Nat → Except String α) (c : Crowd α) : Move → Crowd α
  | .call w => { c with callers := c.callers ++ [{ wish := w }] }
  | .advance i => c.advance outcome i
  | .reset => c.reset

def run (outcome : Nat → Except String α) (c : Crowd α) (ms : List Move) : Crowd α :=
  ms.foldl (move outcome) c

def ofService (s : Service α) : Crowd α := { service := s }

end Crowd

end ScriptHelp
