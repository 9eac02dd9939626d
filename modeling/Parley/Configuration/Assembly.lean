/-
Assembling models.

Every provider of a registry whose settings ask for it gets a model, except where
the caller has one under its name already.  All settings are read before anything
is built; one connection is shared by all models, and is made only when there is
a model to build and the caller has no connection.
-/
import Parley.Configuration.Provider

namespace Parley

namespace Assembly

/-- What models are assembled from. -/
structure Plan where
  connection : Option Connection := none
  /-- The settings of a connection that has to be made. -/
  connectionSettings : Option Settings := none
  /-- The policy of a connection that has to be made. -/
  policy : Option Policy := none
  /-- The settings that the caller has, by the provider's name. -/
  settings : List (String × Settings) := []
  /-- The models that the caller has. -/
  existing : List (String × AnyModel) := []
  file : Environment.File := {}
  deriving Inhabited

/-- The models by name, and the connection that they share. -/
structure Models where
  models : List (String × AnyModel)
  connection : Option Connection
  deriving Inhabited

namespace Models

/-- The names of all models. -/
def names (m : Models) : List String := m.models.map Prod.fst

/-- The names of the chat models. -/
def chatNames (m : Models) : List String :=
  m.models.filterMap fun
    | (name, .chat _) => some name
    | _ => none

/-- The names of the embedding models. -/
def embeddingNames (m : Models) : List String :=
  m.models.filterMap fun
    | (name, .embedding _) => some name
    | _ => none

/-- The model of a name. -/
def get (m : Models) (name : String) : Except Fault AnyModel :=
  match Entries.get? m.models name with
  | some model => .ok model
  | none => .error (.missingKey (.str name))

/-- The models in a line. -/
def shown (m : Models) : String :=
  "BedrockModels(" ++ ", ".intercalate m.names ++ ")"

end Models

/-! ### What to build -/

/-- The settings of a provider. -/
def settingsOf (plan : Plan) (p : Provider) : Run Settings :=
  match Entries.get? plan.settings p.name with
  | some s => pure s
  | none =>
    Run.settingUp s!"Failed to load settings for provider '{p.name}'."
      (Settings.load p.schema [] plan.file)

/-- The providers to build a model of, with their settings. -/
def wanted (plan : Plan) : Registry → Run (List (Provider × Settings))
  | [] => return []
  | p :: rest => do
    let s ← settingsOf plan p
    if !(s.get "enabled").isSet then wanted plan rest
    else if Entries.has plan.existing p.name then
      Run.say .debug .configuration s!"Provider '{p.name}' already supplied, not building it."
      wanted plan rest
    else return (p, s) :: (← wanted plan rest)

/-! ### Building -/

/-- The connection to build models with. -/
def connectionFor (plan : Plan) : Run Connection :=
  match plan.connection with
  | some c => pure c
  | none => Connection.make
      { settings := plan.connectionSettings, policy := plan.policy, file := plan.file }

/-- Build models one after another, and put them to those that there are. -/
def build (c : Connection) : List (Provider × Settings) → List (String × AnyModel) →
    Run (List (String × AnyModel))
  | [], models => return models
  | (p, s) :: rest, models => do
    let model ← p.setUp c s
    Run.say .info .configuration s!"Configured Bedrock {p.purpose.word} model '{p.name}'."
    build c rest (Entries.put models p.name model)

/-- Assemble the models that the providers of a registry are asked for. -/
def assemble (registry : Registry) (plan : Plan) : Run Models := do
  match ← wanted plan registry with
  | [] => return { models := plan.existing, connection := plan.connection }
  | chosen => do
    let c ← connectionFor plan
    let models ← build c chosen plan.existing
    return { models, connection := some c }

end Assembly

end Parley
