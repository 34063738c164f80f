import ScriptHelp.Text.Lowercase

namespace ScriptHelp

inductive Section
  | description
  | dependencies
  | configuration
  | commands
  | notes
  | author
  | examples
  | tags
  | urls
  deriving DecidableEq, Repr

namespace Section

def all : List Section :=
  [.description, .dependencies, .configuration, .commands, .notes, .author, .examples, .tags,
    .urls]

theorem mem_all (s : Section) : s ∈ all := by cases s <;> decide

def name : Section → String
  | .description => "description"
  | .dependencies => "dependencies"
  | .configuration => "configuration"
  | .commands => "commands"
  | .notes => "notes"
  | .author => "author"
  | .examples => "examples"
  | .tags => "tags"
  | .urls => "urls"

def named? (n : String) : Option Section := all.find? (·.name == n)

def dropLastIf (a : Char) (cs : List Char) : List Char :=
  if cs.getLast? = some a then cs.dropLast else cs

/-- A heading is a section's name in any case with an optional colon after it. `authors` opens the
author section too. -/
def ofHeading? (line : String) : Option Section :=
  let key := String.ofList (dropLastIf ':' (Text.lowerList line.toList))
  if key = "authors" then some .author else named? key

end Section

end ScriptHelp
