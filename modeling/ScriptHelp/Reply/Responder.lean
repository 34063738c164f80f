import ScriptHelp.Index
import ScriptHelp.Reply.Address

namespace ScriptHelp

inductive ReplyKind
  | overview
  | all
  | script
  | search
  | notFound
  | catchAll
  | catchAllEmpty
  deriving DecidableEq, Repr

def ReplyKind.name : ReplyKind → String
  | .overview => "overview"
  | .all => "all"
  | .script => "script"
  | .search => "search"
  | .notFound => "not_found"
  | .catchAll => "catch_all"
  | .catchAllEmpty => "catch_all_empty"

structure Reply where
  kind : ReplyKind
  text : String
  commands : List String := []
  deriving DecidableEq, Repr

structure Responder where
  corpus : Corpus
  index : Index
  robotName : String
  robotAlias : Option String
  /-- The maximal number of suggestions; a negative limit drops that many from the end. -/
  limit : Int

namespace Responder

def genericName : List Char := ['h', 'u', 'b', 'o', 't']

/-- Replaces the generic name at the start of a command by the robot's. -/
def renameOne (robotName command : String) : String :=
  match Address.after? genericName command.toList with
  | some rest => robotName ++ String.ofList rest
  | none => command

def rename (r : Responder) (commands : List String) : List String :=
  commands.map (renameOne r.robotName)

def describe (r : Responder) (text : String) : String :=
  String.ofList (Text.replaceFirst genericName r.robotName.toList text.toList)

def bullets (commands : List String) : String :=
  String.intercalate "  \n" (commands.map ("* " ++ ·))

/-- The script of the help command itself, which the overview leaves out. -/
def helpScript : String := "help"

def overviewLine (r : Responder) (e : String × Record) : String :=
  s!"* {r.robotName} help {e.1} - {r.describe e.2.firstDescription}  "

def listed (r : Responder) : List (String × Record) :=
  r.corpus.entries.filter fun e => e.1 != helpScript && !e.2.commands.isEmpty

def overview (r : Responder) : Reply :=
  let lines :=
    ["I can do a lot of things!  Which would you like to know more about? You can say:  ", ""]
      ++ r.listed.map r.overviewLine
      ++ ["", s!"\nOr you can see all commands by typing `{r.robotName} help all`."]
  { kind := .overview, text := String.intercalate "\n" lines }

def allCommands (r : Responder) : Reply :=
  let commands := r.rename r.corpus.commands
  { kind := .all
    text := "Here's a list of all the things I can do:  \n\n" ++ bullets commands
    commands }

def scriptHelp? (r : Responder) (key : String) : Option Reply :=
  match r.corpus.get? key with
  | none => none
  | some record =>
    if record.commands.isEmpty then none
    else
      let commands := r.rename (record.commands.mergeSort fun a b => decide (a ≤ b))
      some {
        kind := .script
        text := r.describe record.firstDescription ++ "  \n\n" ++ bullets commands
        commands }

def searchReply (r : Responder) (query : String) : Except Pattern.Fault Reply := do
  match ← r.index.search query with
  | [] =>
    return { kind := .notFound, text := s!"Sorry!  I couldn't find anything related to {query}" }
  | found =>
    let commands := r.rename found
    return {
      kind := .search
      text := s!"Here's what I can do related to \"{query}\":  \n\n" ++ bullets commands
      commands }

/-- The empty query, and `me` alone or before other words, ask for the overview. -/
def asksOverview (raw : String) : Bool :=
  raw = "" || raw = "me" || "me ".toList.isPrefixOf raw.toList

/-- Answers a query with the overview, all commands, the help of one script, or a search. -/
def respond (r : Responder) (query : Option String) : Except Pattern.Fault Reply :=
  let raw := Text.strip (query.getD "")
  if asksOverview raw then .ok r.overview
  else
    let key := Text.lower raw
    if key = "all" then .ok r.allCommands
    else match r.scriptHelp? key with
      | some reply => .ok reply
      | none => r.searchReply raw

def limited (limit : Int) (commands : List String) : List String :=
  if limit < 0 then commands.take (commands.length - limit.natAbs) else commands.take limit.toNat

def names (r : Responder) : List String :=
  r.robotName :: r.robotAlias.toList.filter (· ≠ "")

def suggestion (r : Responder) : (found : List String) → Reply
  | [] => {
    kind := .catchAllEmpty
    text := s!"Sorry, I didn't catch that.  Try `{r.robotName} help`" }
  | found =>
    let commands := r.rename (limited r.limit found)
    let lines := "Sorry, I didn't catch that.  Try one of these?" :: commands.map ("* " ++ ·)
    { kind := .catchAll, text := String.intercalate "\n" lines, commands }

/-- Suggests commands for a message addressed to the robot. Other messages get no answer. -/
def catchAll (r : Responder) (message : String) : Except Pattern.Fault (Option Reply) :=
  match Address.remainder? r.names message with
  | none => .ok none
  | some rest => do return some (r.suggestion (← r.index.search rest))

end Responder

end ScriptHelp
