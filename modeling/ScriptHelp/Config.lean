import ScriptHelp.Number.Shortest

namespace ScriptHelp

abbrev Environment := List (String × String)

def Environment.set (e : Environment) (name : String) : Option String → Environment
  | some v => (name, v) :: e.filter (·.1 ≠ name)
  | none => e.filter (·.1 ≠ name)

structure Config where
  cwd : String
  robotName : String
  robotAlias : Option String
  sourceTimeout : Number.Double
  catchAllLimit : Int

namespace Config

def cwdVariable : String := "BETTER_HELP_CWD"
def nameVariable : String := "BETTER_HELP_ROBOT_NAME"
def aliasVariable : String := "BETTER_HELP_ROBOT_ALIAS"
def timeoutVariable : String := "BETTER_HELP_SOURCE_TIMEOUT_S"
def limitVariable : String := "BETTER_HELP_CATCH_ALL_LIMIT"

def variableNames : List String :=
  [cwdVariable, nameVariable, aliasVariable, timeoutVariable, limitVariable]

/-- A value of whitespace only counts as absent. -/
def textSetting? (e : Environment) (key : String) : Option String :=
  (e.lookup key).bind Text.strip?

/-- Whitespace around the numeral is ignored. -/
def integerSetting? (e : Environment) (key : String) : Option Int :=
  (e.lookup key).bind fun v => (Number.readInteger v).toOption

def numberSetting? (e : Environment) (key : String) : Option Number.Double :=
  (e.lookup key).bind Number.Double.read?

def defaultName : String := "hubot"

def defaultLimit : Int := 5

def defaultTimeout : Number.Double := .ofDecimal false 30 0

def leastTimeout : Number.Double := .ofDecimal false 1 (-1)

/-- `nan` compares greater than nothing, so it gives the minimum. -/
def timeoutAtLeast (x : Number.Double) : Number.Double :=
  if leastTimeout.lt x then x else leastTimeout

def ofEnvironment (e : Environment) : Config :=
  { cwd := (textSetting? e cwdVariable).getD "."
    robotName := (textSetting? e nameVariable).getD defaultName
    robotAlias := textSetting? e aliasVariable
    sourceTimeout := timeoutAtLeast ((numberSetting? e timeoutVariable).getD defaultTimeout)
    catchAllLimit := max 1 ((integerSetting? e limitVariable).getD defaultLimit) }

end Config

end ScriptHelp
