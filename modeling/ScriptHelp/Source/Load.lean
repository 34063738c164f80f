import ScriptHelp.Source.Package

namespace ScriptHelp

structure Bot where
  host : Host
  cwd : Path
  limit : TimeLimit

namespace Bot

open Text

def localDirectories : List String := ["scripts", "src/scripts"]

def declarationFile : String := "external-scripts.json"

def loadLocal (b : Bot) (directory : String) : Loaded :=
  .ofResult (Script.loadDirectory b.host.tree directory (b.cwd.join directory))

def loadPackage (b : Bot) (d : Declaration) : Loaded :=
  .ofResult ((Package.load b.host b.cwd d).mapError (⟨d.package, ·⟩))

def declarations (b : Bot) : Except SourceCause (List Declaration) :=
  match b.host.tree.readText (b.cwd.join declarationFile) with
  | .ok text => Declaration.read b.host.stack.declaration text
  | .error (.file e) => if e.fault = .missing then .ok [] else .error (.inaccessible e)
  | .error (.decoding f) => .error (.brokeDown (.decoding f))

def loadPackages (b : Bot) : Loaded :=
  match b.declarations with
  | .ok ds => .concat (ds.map b.loadPackage)
  | .error cause => .ofResult (.error ⟨declarationFile, cause⟩)

/-- The bot's own directories and then the declared packages, with the errors in this order. -/
def load (b : Bot) : Loaded :=
  if b.limit.expired then
    { errors := (localDirectories ++ [declarationFile]).map fun s =>
        ⟨codePoints s, .timedOut b.limit⟩ }
  else .concat (localDirectories.map b.loadLocal ++ [b.loadPackages])

end Bot

end ScriptHelp
