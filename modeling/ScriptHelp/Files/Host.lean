import ScriptHelp.Files.Tree

namespace ScriptHelp

/-- The recursion depth left to each reader of nested text where it is called: for the declaration
of a bot, the manifest of a package, and a search pattern. -/
structure Stack where
  declaration : Nat
  manifest : Nat
  pattern : Nat

structure Host where
  tree : FileTree
  /-- The working directory. -/
  directory : Path := .root
  searchPath : List Path := []
  /-- Modules found without a search, built in or already loaded; some have no location. -/
  modules : List (String × Option Path) := []
  stack : Stack

namespace Host

open Text

def moduleSuffixes : List CodePoints :=
  [".cpython-311-x86_64-linux-gnu.so", ".abi3.so", ".so", ".py", ".pyc"]

def holds (test : Path → Except FileTree.Error Bool) (p : Path) : Bool :=
  (test p).toOption.getD false

/-- A module directly inside a directory: a package with an `__init__` file, else a single file. -/
def moduleIn? (t : FileTree) (name : String) (directory : Path) : Option Path :=
  let package := directory.join name
  if moduleSuffixes.any fun s => holds t.isFile (package.join ("__init__" ++ s)) then some package
  else (moduleSuffixes.map fun s => directory.join (name ++ s)).find? (holds t.isFile)

/-- A namespace package, which is any directory of the name, where no module is found. -/
def findModule? (h : Host) (name : String) : Option Path :=
  match h.modules.lookup name with
  | some place => place
  | none => (h.searchPath.findSome? (moduleIn? h.tree name)).or
      ((h.searchPath.map fun d => d.join name).find? (holds h.tree.isDir))

end Host

end ScriptHelp
