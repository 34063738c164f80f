import ScriptHelp.Service.Basic
import ScriptHelp.Tool.Answer

namespace ScriptHelp

structure Request where
  tool : Tool
  arguments : List (String × Json)

def Call.wish : Call → Wish
  | .reload => .fresh
  | _ => .current

structure Session where
  host : Host
  environment : Environment
  /-- If set, every load fails with this message. -/
  obstacle : Option String := none
  service : Service Snapshot := {}
  held : Option Snapshot := none

namespace Session

inductive Step
  | call (r : Request)
  | together (rs : List Request)
  | write (p : Path) (content : FileTree)
  | delete (p : Path)
  | setEnvironment (changes : List (String × Option String))
  | reset
  | obstruct (message : Option String)
  | hold
  | askHeld (query : Option String)

inductive Output
  | answer (a : Answer)
  | answers (as : List Answer)
  | done
  | reply (r : Except Pattern.Fault Reply)
  | loadFailed (reason : String)
  | nothingHeld

def outcome (s : Session) : Except String Snapshot :=
  match s.obstacle with
  | some m => .error m
  | none => .ok (.load s.host s.environment)

/-- The result for a caller who found `door` on arrival. -/
def serve (door : Option (Numbered Snapshot)) (s : Session) (w : Wish) :
    Except String Snapshot × Session :=
  let (r, service) := s.service.serveFrom (fun _ => s.outcome) door w
  (r, { s with service })

/-- A request with invalid arguments does not reach the service. -/
def answer (door : Option (Numbered Snapshot)) (s : Session) (r : Request) : Answer × Session :=
  match Call.read r.tool r.arguments with
  | .error ps => (.error (.arguments ps), s)
  | .ok c =>
    let (result, s) := s.serve door c.wish
    (c.answer result, s)

def answers (door : Option (Numbered Snapshot)) (s : Session) :
    List Request → List Answer × Session
  | [] => ([], s)
  | r :: rs =>
    let (a, s) := s.answer door r
    let (as, s) := s.answers door rs
    (a :: as, s)

def keep (s : Session) : Output × Session :=
  let (r, s) := s.serve s.service.current .current
  match r with
  | .ok snapshot => (.done, { s with held := some snapshot })
  | .error reason => (.loadFailed reason, s)

def askHeld (s : Session) (query : Option String) : Output :=
  match s.held with
  | some snapshot => .reply (snapshot.responder.respond query)
  | none => .nothingHeld

def step (s : Session) : Step → Output × Session
  | .call r =>
    let (a, s) := s.answer s.service.current r
    (.answer a, s)
  | .together rs =>
    let (as, s) := s.answers s.service.current rs
    (.answers as, s)
  | .write p content =>
    (.done, { s with host := { s.host with tree := s.host.tree.write p content } })
  | .delete p => (.done, { s with host := { s.host with tree := s.host.tree.delete p } })
  | .setEnvironment changes =>
    (.done, { s with environment := changes.foldl (fun e c => e.set c.1 c.2) s.environment })
  | .reset => (.done, { s with service := s.service.reset })
  | .obstruct message => (.done, { s with obstacle := message })
  | .hold => s.keep
  | .askHeld query => (s.askHeld query, s)

/-- The output of each step, with the number of loads started so far. -/
def run (s : Session) : List Step → List (Output × Nat)
  | [] => []
  | st :: sts =>
    let (o, s) := s.step st
    (o, s.service.loads) :: s.run sts

end Session

end ScriptHelp
