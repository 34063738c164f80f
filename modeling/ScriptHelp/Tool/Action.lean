import ScriptHelp.Reply.Responder

namespace ScriptHelp

inductive Action
  | replied (kind : ReplyKind)
  | ignored
  | reload
  deriving DecidableEq, Repr

namespace Action

def name : Action → String
  | .replied kind => kind.name
  | .ignored => "ignored"
  | .reload => "reload"

def all : List Action :=
  [.replied .overview, .replied .all, .replied .script, .replied .search, .replied .notFound,
    .replied .catchAll, .replied .catchAllEmpty, .ignored, .reload]

theorem mem_all (a : Action) : a ∈ all := by
  rcases a with k | _ | _
  · cases k <;> decide
  · decide
  · decide

def named? (n : String) : Option Action := all.find? fun a => a.name = n

theorem named?_name (a : Action) : named? a.name = some a := by
  rcases a with k | _ | _
  · cases k <;> decide
  · decide
  · decide

def choices : String :=
  let quoted := all.map fun a => "'" ++ a.name ++ "'"
  String.intercalate ", " quoted.dropLast ++ " or " ++ quoted.getLastD ""

end Action

end ScriptHelp
