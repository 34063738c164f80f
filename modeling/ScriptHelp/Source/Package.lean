import ScriptHelp.Files.Host
import ScriptHelp.Source.Declaration
import ScriptHelp.Source.Scripts
import ScriptHelp.Text.Identifier

namespace ScriptHelp

namespace Package

open Script Text

def keyPrefix : CodePoints := "hubot-"

def key (package : CodePoints) : String :=
  CodePoints.shown <|
    if keyPrefix.isPrefixOf package then package.drop keyPrefix.length else package

/-- The module name of a package, if it can have one. -/
def moduleName? (package : CodePoints) : Option String :=
  package.text?.bind fun s =>
    let name := s.toList.map fun c => if c = '-' then '_' else c
    if isIdentifier name then some (String.ofList name) else none

def find? (h : Host) (cwd : Path) (package : CodePoints) :
    Except FileTree.Error (Option Path) := do
  let directory := (cwd.join "node_modules").join package
  if ← h.tree.isDir directory then return some directory
  return (moduleName? package).bind h.findModule?

/-- Where a package may keep its scripts; only the first place that holds any counts. -/
def scriptPlaces : List CodePoints := ["src/scripts", "src", "scripts"]

def entryNames : List CodePoints := ["index.js", "index.coffee", "index.ts", "__init__.py"]

def firstFile? (t : FileTree) : List Path → Except FileTree.Error (Option Path)
  | [] => .ok none
  | p :: ps => do if ← t.isFile p then return some p else firstFile? t ps

def firstPlace? (t : FileTree) (root : Path) :
    List CodePoints → Except FileTree.Error (Option (List Path))
  | [] => .ok none
  | n :: ns => do
    let place := root.join n
    let files ← if ← t.isDir place then filesIn t place else pure []
    if files.isEmpty then firstPlace? t root ns else return some files

/-- The main file that a manifest names. An unreadable manifest names none. -/
def mainName? (depth : Nat) (text : List Char) : Except Breakdown (Option CodePoints) :=
  match Json.read depth text with
  | .ok j => match j.field? "main" with
    | some (.str s) => .ok (if s.isEmpty then none else some s)
    | _ => .ok none
  | .error (.tooDeep c) => .error (.tooDeep c)
  | .error _ => .ok none

def mainCandidates (p : Path) : Except Breakdown (List Path) :=
  if p.name.isEmpty then .error (.noName p)
  else .ok (p :: suffixes.map fun s => p.withName (p.name ++ s))

def orBreakdown : Except FileTree.Error α → Except Breakdown α
  | .ok a => .ok a
  | .error e => .error (.file e)

def mainFile? (h : Host) (root : Path) : Except Breakdown (Option Path) := do
  let manifest := root.join "package.json"
  if !(← orBreakdown (h.tree.isFile manifest)) then return none
  match h.tree.readText manifest with
  | .error _ => return none
  | .ok text =>
    match ← mainName? h.stack.manifest text with
    | none => return none
    | some main => orBreakdown (firstFile? h.tree (← mainCandidates (root.join main)))

def entryFile? (h : Host) (root : Path) : Except Breakdown (Option Path) := do
  match ← mainFile? h root with
  | some p => return some p
  | none => orBreakdown (firstFile? h.tree (entryNames.map root.join))

def isNamed (names : List CodePoints) (p : Path) : Bool :=
  names.contains p.name || names.contains (nameOf p.name)

def files (h : Host) (root : Path) (restriction : Option (List CodePoints)) :
    Except Breakdown (List Path) := do
  if ← orBreakdown (h.tree.isFile root) then return [root]
  match ← orBreakdown (firstPlace? h.tree root scriptPlaces), restriction with
  | some ps, some names => return ps.filter (isNamed names)
  | some ps, none => return ps
  | none, some _ => return []
  | none, none => return (← entryFile? h root).toList

def load (h : Host) (cwd : Path) (decl : Declaration) : Except SourceCause Loaded :=
  match find? h cwd decl.package with
  | .error e => .error (.brokeDown (.file e))
  | .ok none => .error .packageNotFound
  | .ok (some root) =>
    match files h root decl.restriction?, decl.restriction? with
    | .error b, _ => .error (.brokeDown b)
    | .ok [], some names => .error (.scriptsNotFound names)
    | .ok ps, _ =>
      .ok (ps.foldl (fun l p => l.addFile h.tree decl.package (key decl.package) p) {})

end Package

end ScriptHelp
