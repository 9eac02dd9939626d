/-
Connections to the service.

A connection has settings and a policy for trying again.  Making one opens a
client, unless there is one at hand: with a bearer token if there is one, else
with a pair of keys, else with a profile, else with whatever the process finds.
-/
import Parley.Service.Retry
import Parley.Settings.Catalogue

namespace Parley

/-- A connection to the service. -/
structure Connection where
  settings : Settings
  policy : Policy
  deriving Inhabited

/-- A policy from settings. -/
def Policy.ofSettings (s : Settings) : Except Fault Policy :=
  Policy.ofFields (s.values.map fun e => (e.1, e.2.reveal))

/-- Pass a bad value on as a failure to set up, in the given words. -/
def Run.settingUp {α : Type} (text : String) (x : Run α) : Run α :=
  x.onFault fun f =>
    Run.fail (if f.isBadValue then .raised .initialization text (some f) else f)

namespace Connection

/-- The region that is meant when none is named. -/
def defaultRegion : String := "us-east-1"

/-- The region of a connection, as its settings name it. -/
def region (c : Connection) : Held := c.settings.get "region_name"

/-! ### Opening a client -/

/-- The text of a value that has to be a secret. -/
def secretText (h : Held) : Except Fault String :=
  match h with
  | .secret s => .ok s
  | .plain v =>
    .error (.noAttribute s!"'{Given.kindName v}' object has no attribute 'get_secret_value'")

/-- The pair of keys in settings. -/
def keysOf (s : Settings) : Except Fault Keys := do
  let id ← secretText (s.get "access_key_id")
  let secret ← secretText (s.get "secret_access_key")
  let token ←
    if (s.get "session_token").isSet then (secretText (s.get "session_token")).map some
    else .ok none
  return { id, secret, token }

/-- The variable that holds the bearer token. -/
def bearerVariable : String := "AWS_BEARER_TOKEN_BEDROCK"

/-- Say what a client is opened with. -/
def announce (credentials : String) : Run Unit :=
  Run.say .info .api ("Using " ++ credentials ++ " for Bedrock authentication")

/-- The steps that open a client. -/
def steps (s : Settings) : Run Unit := do
  let value (name : String) : Document := Given.document (s.get name).reveal
  let region : Document :=
    if (s.get "region_name").isSet then value "region_name" else .str defaultRegion
  let timeout := value "timeout"
  if (s.get "bearer_token_bedrock").isSet then
    announce "bearer token"
    let token ← Run.ofExcept (secretText (s.get "bearer_token_bedrock"))
    Run.setVariable bearerVariable token
    Run.openStep (.client region none timeout)
  else if (s.get "access_key_id").isSet && (s.get "secret_access_key").isSet then
    announce "AWS access key/secret"
    let keys ← Run.ofExcept (keysOf s)
    Run.openStep (.client region (some keys) timeout)
  else if (s.get "profile").isSet then
    announce ("AWS profile '" ++ (value "profile").display ++ "'")
    Run.openStep (.profile (value "profile") region)
    Run.openStep (.profileClient timeout)
  else
    announce "default AWS credential chain"
    Run.openStep (.client region none timeout)

/-- What is said when a process finds no credentials. -/
def noCredentialsText : String :=
  "AWS credentials not found. Set via 'bearer_token', 'access_key_id/secret_access_key', "
    ++ "a profile, or configure AWS credentials via environment variables or "
    ++ "~/.aws/credentials file."

/-- The fault of a client that could not be opened. -/
def notOpened (f : Fault) : Fault :=
  match f with
  | .noCredentials => .raised .initialization noCredentialsText (some f)
  | f =>
    if f.isConnection || f.isBadValue then
      .raised .initialization ("Failed to create Bedrock client: " ++ f.message) (some f)
    else f

/-- Open a client. -/
def openClient (s : Settings) : Run Unit :=
  (steps s).onFault fun f => Run.fail (notOpened f)

/-! ### Making a connection -/

/-- What a connection is made from. -/
structure Plan where
  /-- Whether a client is at hand. -/
  hasClient : Bool := false
  settings : Option Settings := none
  policy : Option Policy := none
  /-- What the caller says about the connection when there are no settings yet. -/
  arguments : List (String × Given) := []
  file : Environment.File := {}
  deriving Inhabited

/-- What a caller may say about a connection. -/
def argumentNames : List String :=
  ["region_name", "bearer_token", "access_key_id", "secret_access_key", "session_token", "profile",
    "timeout", Settings.pathArgument, Settings.encodingArgument]

/-- The fault of saying something else. -/
def unknownArgument (name : String) : Fault :=
  .wrongKind s!"unexpected keyword argument '{name}'"

/-- The settings that a caller's arguments are about. -/
def settingArguments (arguments : List (String × Given)) : List (String × Given) :=
  arguments.map fun (name, v) =>
    (if name == "bearer_token" then "bearer_token_bedrock" else name, v)

/-- The arguments that are about the file of variables. -/
def fileArguments (arguments : List (String × Given)) : List (String × Given) :=
  arguments.filter fun e => Settings.isAboutFile e.1

/-- The settings of a connection. -/
def settingsFor (p : Plan) : Run Settings :=
  match p.settings with
  | some s => pure s
  | none =>
    Run.settingUp "Failed to create Bedrock connection settings."
      (Settings.load Schema.connection (settingArguments p.arguments) p.file)

/-- The policy of a connection. -/
def policyFor (p : Plan) : Run Policy :=
  match p.policy with
  | some policy => pure policy
  | none =>
    Run.settingUp "Failed to create Bedrock retry settings." do
      let s ← Settings.load Schema.retry (fileArguments p.arguments) p.file
      Run.ofExcept (Policy.ofSettings s)

/-- Make a connection. -/
def make (p : Plan) : Run Connection := do
  match p.arguments.find? fun e => !argumentNames.contains e.1 with
  | some e => Run.fail (unknownArgument e.1)
  | none => pure ()
  let settings ← settingsFor p
  let policy ← policyFor p
  if !p.hasClient then openClient settings
  return { settings, policy }

end Connection

end Parley
