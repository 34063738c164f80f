import ScriptHelp.Files.Path

namespace ScriptHelp

open Text

/-- A file, or a directory whose entries have Unicode names. -/
inductive FileTree
  | file (content : Bytes)
  | dir (children : List (String × FileTree))

namespace FileTree

inductive Fault
  | missing
  | notDirectory
  | isDirectory
  | nameTooLong
  deriving DecidableEq, Repr

def Fault.number : Fault → Nat
  | .missing => 2
  | .notDirectory => 20
  | .isDirectory => 21
  | .nameTooLong => 36

def Fault.text : Fault → String
  | .missing => "No such file or directory"
  | .notDirectory => "Not a directory"
  | .isDirectory => "Is a directory"
  | .nameTooLong => "File name too long"

def Fault.family : Fault → String
  | .missing => "FileNotFoundError"
  | .notDirectory => "NotADirectoryError"
  | .isDirectory => "IsADirectoryError"
  | .nameTooLong => "OSError"

structure Error where
  fault : Fault
  path : Path
  deriving DecidableEq, Repr

def Error.message (e : Error) : String :=
  s!"[Errno {e.fault.number}] {e.fault.text}: " ++ quoted e.path.text

/-- The number of bytes a code point takes in a system call. The surrogates U+DC80 to U+DCFF escape
single bytes; other surrogates and the null character cannot be encoded. -/
def bytesOf? : CodePoint → Option Nat
  | .char c => if c = '\x00' then none else some c.utf8Size
  | .surrogate n => if 0x480 ≤ n.val ∧ n.val < 0x500 then some 1 else none

@[irreducible] def size (s : CodePoints) : Nat :=
  s.foldl (fun n p => n + (bytesOf? p).getD 0) 0

def Askable (s : CodePoints) : Prop := ∀ p ∈ s, bytesOf? p ≠ none

instance : DecidablePred Askable := fun s =>
  inferInstanceAs (Decidable (∀ p ∈ s, bytesOf? p ≠ none))

def maxNameBytes : Nat := 255

def maxPathBytes : Nat := 4095

structure Place where
  here : FileTree
  above : List FileTree

/-- The root is its own parent. -/
def Place.up : Place → Place
  | ⟨_, t :: above⟩ => ⟨t, above⟩
  | root => root

def child? (children : List (String × FileTree)) (n : CodePoints) : Option FileTree :=
  n.text?.bind fun n => children.lookup n

def Place.step (p : Place) (n : CodePoints) : Except Fault Place :=
  match p.here with
  | .file _ => .error .notDirectory
  | .dir children =>
    if n = Path.parent then .ok p.up
    else if maxNameBytes < size n then .error .nameTooLong
    else match child? children n with
      | some t => .ok ⟨t, p.here :: p.above⟩
      | none => .error .missing

/-- Follows a path from the root. The length limit is checked first. -/
def walk (t : FileTree) (p : Path) : Except Fault Place :=
  if maxPathBytes < size p.text then .error .nameTooLong else p.names.foldlM Place.step ⟨t, []⟩

def locate (t : FileTree) (p : Path) : Except Error Place := (t.walk p).mapError (⟨·, p⟩)

/-- Missing paths and paths that cannot be encoded test false; only a path that is too long is an
error. -/
def test (t : FileTree) (p : Path) (f : FileTree → Bool) : Except Error Bool :=
  if Askable p.text then
    match t.locate p with
    | .ok place => .ok (f place.here)
    | .error e => if e.fault = .nameTooLong then .error e else .ok false
  else .ok false

def isFile (t : FileTree) (p : Path) : Except Error Bool :=
  t.test p fun | .file _ => true | .dir _ => false

def isDir (t : FileTree) (p : Path) : Except Error Bool :=
  t.test p fun | .file _ => false | .dir _ => true

def list (t : FileTree) (p : Path) : Except Error (List String) := do
  match (← t.locate p).here with
  | .dir children => .ok ((children.map (·.1)).mergeSort fun a b => decide (a ≤ b))
  | .file _ => .error ⟨.notDirectory, p⟩

def readBytes (t : FileTree) (p : Path) : Except Error Bytes := do
  match (← t.locate p).here with
  | .file content => .ok content
  | .dir _ => .error ⟨.isDirectory, p⟩

def alterChild (n : String) (f : Option FileTree → FileTree) :
    List (String × FileTree) → List (String × FileTree)
  | [] => [(n, f none)]
  | (m, t) :: cs => if m = n then (m, f (some t)) :: cs else (m, t) :: alterChild n f cs

/-- Puts `new` at the end of a chain of names and creates the directories on the way. -/
def put (new : FileTree) : (names : List String) → Option FileTree → FileTree
  | [], old =>
    match new, old with
    | .dir [], some (.dir cs) => .dir cs
    | _, _ => new
  | n :: ns, some (.dir cs) => .dir (alterChild n (put new ns) cs)
  | n :: ns, _ => .dir (alterChild n (put new ns) [])

def dropAt : (names : List String) → FileTree → FileTree
  | [n], .dir cs => .dir (cs.filter (·.1 ≠ n))
  | n :: ns, .dir cs => .dir (cs.map fun c => if c.1 = n then (c.1, dropAt ns c.2) else c)
  | _, t => t

def textNames? (p : Path) : Option (List String) := p.resolve.names.mapM CodePoints.text?

def write (t : FileTree) (p : Path) (new : FileTree) : FileTree :=
  match textNames? p with
  | some names => put new names (some t)
  | none => t

def delete (t : FileTree) (p : Path) : FileTree :=
  match textNames? p with
  | some names => dropAt names t
  | none => t

end FileTree

inductive ReadError
  | file (e : FileTree.Error)
  | decoding (f : Utf8.Fault)
  deriving DecidableEq, Repr

def ReadError.message : ReadError → String
  | .file e => e.message
  | .decoding f => f.message

def ReadError.family : ReadError → String
  | .file e => e.fault.family
  | .decoding _ => "UnicodeDecodeError"

/-- Decodes a file as UTF-8 with universal newlines. -/
def FileTree.readText (t : FileTree) (p : Path) : Except ReadError (List Char) :=
  match t.readBytes p with
  | .error e => .error (.file e)
  | .ok bytes =>
    match Utf8.decode bytes with
    | .error f => .error (.decoding f)
    | .ok cs => .ok (unifyLineEnds cs)

end ScriptHelp
