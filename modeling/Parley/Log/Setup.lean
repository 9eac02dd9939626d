/-
Setting up the log.

The loggers of this library have names that start with the library's own.  Until
the log is set up it has no handler; setting it up adds one, and doing so again
only changes the level.
-/
import Parley.Given
import Parley.Text.Case

namespace Parley

namespace LogSetup

/-- The name that all loggers start with. -/
def rootName : String := "bedrock_converse"

/-- The logger of a name; the library's own if there is none. -/
def loggerNamed (name : Option String) : Except Fault String :=
  match name with
  | none => .ok rootName
  | some name =>
    if rootName.toList.isPrefixOf name.toList then .ok name
    else .error (.raised .library
      s!"Logger name must start with '{rootName}', got '{name}'." none)

/-- The levels that have names. -/
def namedLevels : List (String × Int) :=
  [("DEBUG", 10), ("INFO", 20), ("WARNING", 30), ("WARN", 30), ("ERROR", 40),
    ("CRITICAL", 50), ("FATAL", 50), ("NOTSET", 0)]

/-- The level that holds when nobody says otherwise, or names one that there is not. -/
def defaultLevel : Int := 20

/-- The fault of something that is no level. -/
def notLevel : Fault := .wrongKind "Level not an integer or a valid string"

/-- The level that a name stands for.  Two names belong to parts of the log that are no
levels. -/
def levelNamed (name : String) : Except Fault Int :=
  match Text.upper name with
  | "BASIC_FORMAT" => .error (.badValue "Unknown level: '%(levelname)s:%(name)s:%(message)s'")
  | "_STYLES" => .error notLevel
  | name => .ok ((Entries.get? namedLevels name).getD defaultLevel)

/-- The level that a value stands for: a number does so as it is. -/
def levelOf (v : Given) : Except Fault Given :=
  match v with
  | .null => .ok (.int defaultLevel)
  | .str name => (levelNamed name).map .int
  | .int n => .ok (.int n)
  | .bool b => .ok (.bool b)
  | _ => .error notLevel

end LogSetup

/-- The log as it is set up: its level, and the levels of its handlers. -/
structure LogSetup where
  level : Given := .int 0
  handlers : List Given := []
  deriving Inhabited

namespace LogSetup

/-- Set the log up with a level. -/
def setUp (l : LogSetup) (v : Given) : Except Fault LogSetup := do
  let level ← levelOf v
  let handlers := if l.handlers.isEmpty then [level] else l.handlers.map fun _ => level
  return { level, handlers }

end LogSetup

end Parley
