/-
Log records.
-/

namespace Parley

/-- The weight of a record. -/
inductive Level where
  | debug
  | info
  | warning
  | error
  deriving DecidableEq, Repr, Inhabited

namespace Level

/-- The number of a level. -/
def number : Level → Nat
  | .debug => 10
  | .info => 20
  | .warning => 30
  | .error => 40

/-- The name of a level. -/
def name : Level → String
  | .debug => "DEBUG"
  | .info => "INFO"
  | .warning => "WARNING"
  | .error => "ERROR"

/-- The level of a name. -/
def named? (name : String) : Option Level :=
  [debug, info, warning, error].find? fun l => l.name == name

end Level

/-- The parts of the library that write records. -/
inductive Source where
  | api
  | chat
  | clients
  | configuration
  | converse
  | embedding
  | options
  | tools
  deriving DecidableEq, Repr, Inhabited

/-- The name of a source's logger. -/
def Source.logger : Source → String
  | .api => "bedrock_converse.api"
  | .chat => "bedrock_converse.chat"
  | .clients => "bedrock_converse.clients"
  | .configuration => "bedrock_converse.configuration"
  | .converse => "bedrock_converse.converse"
  | .embedding => "bedrock_converse.embedding"
  | .options => "bedrock_converse.options"
  | .tools => "bedrock_converse.tools"

/-- A log record. -/
structure Record where
  level : Level
  source : Source
  text : String
  deriving DecidableEq, Repr, Inhabited

end Parley
