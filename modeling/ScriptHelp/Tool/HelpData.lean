import ScriptHelp.Tool.Envelope

namespace ScriptHelp

structure HelpData where
  action : Action
  reply : Option String
  entries : List String := []
  summary : List (String × Json) := []

namespace HelpData

def readAction : Json → Checked Action
  | .str s => match Action.named? s with
    | some a => .ok a
    | none => .fault .notAction
  | _ => .fault .notAction

def isVoid : Json → Bool
  | .null | .bool false | .str "" | .arr [] | .obj [] => true
  | .int n => n == 0
  | .float (.finite _ m _) => m == 0
  | _ => false

/-- A falsy value stands for the empty one. -/
def orEmpty (empty j : Json) : Json := if isVoid j then empty else j

def read (fs : List (String × Json)) : Checked HelpData :=
  let action := Checked.required readAction fs "action"
  let reply := Checked.required (.orNull .string) fs "reply"
  let entries := Checked.allowed (fun j => .list .string (orEmpty (.arr []) j)) fs "entries"
  let summary := Checked.allowed (fun j => .fields (orEmpty (.obj []) j)) fs "summary"
  (action.both (reply.both (entries.both summary))).map fun (a, r, e, s) => ⟨a, r, e, s⟩

def replyJson (d : HelpData) : Json := (d.reply.map .str).getD .null

def toJson (d : HelpData) : Json :=
  .obj ([("action", .str d.action.name)] ++ d.replyJson.kept "reply" ++
    [("entries", .ofStrings d.entries), ("summary", .obj d.summary)])

end HelpData

end ScriptHelp
