import ScriptHelp.Corpus
import ScriptHelp.Header
import ScriptHelp.Source.Error

namespace ScriptHelp

open Text

def Header.readFile (t : FileTree) (p : Path) : Except ReadError Record :=
  (t.readText p).map fun text => read (String.ofList text)

/-- A corpus, with an error for each source or file that could not be loaded. -/
structure Loaded where
  corpus : Corpus := .empty
  errors : List SourceError := []

namespace Loaded

def ofResult : Except SourceError Loaded → Loaded
  | .ok l => l
  | .error e => { errors := [e] }

/-- Records under one key merge, and errors keep their order. -/
def append (a b : Loaded) : Loaded :=
  ⟨b.corpus.entries.foldl (fun c e => c.add e.1 e.2) a.corpus, a.errors ++ b.errors⟩

def concat (ls : List Loaded) : Loaded := ls.foldl append {}

def addFile (l : Loaded) (t : FileTree) (source : CodePoints) (name : String)
    (p : Path) : Loaded :=
  match Header.readFile t p with
  | .ok r => { l with corpus := l.corpus.add name r }
  | .error e => { l with errors := l.errors ++ [⟨source, .unreadable p.name e⟩] }

end Loaded

namespace Script

def suffixes : List CodePoints := [".py", ".js", ".coffee", ".ts"]

/-- Type declarations and package markers have a script suffix but document nothing. -/
def isScriptName (n : CodePoints) : Bool :=
  suffixes.contains (splitSuffix n).2 && !(codePoints ".d.ts").isSuffixOf n && n != "__init__.py"

def nameOf (fileName : CodePoints) : CodePoints := (splitSuffix fileName).1

/-- Every path is tested before its name is checked. -/
def keepScripts (t : FileTree) : List Path → Except FileTree.Error (List Path)
  | [] => .ok []
  | p :: ps => do
    let isFile ← t.isFile p
    let kept ← keepScripts t ps
    return if isFile && isScriptName p.name then p :: kept else kept

def filesIn (t : FileTree) (directory : Path) : Except FileTree.Error (List Path) := do
  keepScripts t ((← t.list directory).map directory.child)

/-- A missing directory has no scripts. An error after the listing is reported under the source's
name. -/
def localFiles (t : FileTree) (source : String) (directory : Path) :
    Except SourceError (List Path) :=
  match t.list directory with
  | .error e => if e.fault = .missing then .ok [] else .error ⟨directory.text, .inaccessible e⟩
  | .ok _ => (filesIn t directory).mapError fun e => ⟨source, .brokeDown (.file e)⟩

def loadDirectory (t : FileTree) (source : String) (directory : Path) :
    Except SourceError Loaded := do
  let files ← localFiles t source directory
  return files.foldl (fun l p => l.addFile t directory.text (nameOf p.name).shown p) {}

end Script

end ScriptHelp
