import ScriptHelp.Tool.Problem

namespace ScriptHelp

structure Failure where
  code : String
  message : String
  details : Option (List (String × Json)) := none

inductive Envelope
  | success (data : Json)
  | failure (data : Json) (error : Failure)

/-- A field that is left out if it is null. -/
def Json.kept (name : String) : Json → List (String × Json)
  | .null => []
  | j => [(name, j)]

namespace Failure

def read (fs : List (String × Json)) : Checked Failure :=
  let code := Checked.required .string fs "code"
  let message := Checked.required .string fs "message"
  let details := Checked.allowed (.orNull .fields) fs "details"
  (code.both (message.both details)).map fun (c, m, d) => ⟨c, m, d⟩

def readValue : Json → Checked Failure
  | .obj fs => read fs
  | _ => .fault .notFailure

def detailsJson (f : Failure) : Json := (f.details.map .obj).getD .null

def full (f : Failure) : Json :=
  .obj [("code", .str f.code), ("message", .str f.message), ("details", f.detailsJson)]

def compact (f : Failure) : Json :=
  .obj ([("code", .str f.code), ("message", .str f.message)] ++ f.detailsJson.kept "details")

end Failure

namespace Envelope

/-- A success has no error, and a failure has one. -/
def ofParts : Bool → Json → Option Failure → Checked Envelope
  | true, data, none => .ok (.success data)
  | true, _, some _ => .fault .successWithError
  | false, data, some error => .ok (.failure data error)
  | false, _, none => .fault .failureWithoutError

/-- Fields of other names do not count. -/
def read (fs : List (String × Json)) : Checked Envelope := do
  let ok := Checked.required .boolean fs "ok"
  let data := (fs.lookup "data").getD .null
  let error := Checked.allowed (.orNull Failure.readValue) fs "error"
  let (o, e) ← ok.both error
  ofParts o data e

def full : Envelope → Json
  | .success data => .obj [("ok", .bool true), ("data", data), ("error", .null)]
  | .failure data error => .obj [("ok", .bool false), ("data", data), ("error", error.full)]

def compact : Envelope → Json
  | .success data => .obj (("ok", .bool true) :: data.kept "data")
  | .failure data error =>
    .obj (("ok", .bool false) :: data.kept "data" ++ [("error", error.compact)])

def ofFailure (parts : List (String × Json)) : Checked Envelope :=
  (Failure.read parts).map (.failure ((parts.lookup "data").getD .null))

end Envelope

end ScriptHelp
