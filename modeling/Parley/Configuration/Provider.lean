/-
Model families to choose from.

A provider says how the models of one family are configured and built.  The
providers are kept in a registry under their names; one that is registered under
a name in use takes the place of the other.
-/
import Parley.Chat.Model
import Parley.Embedding.Model
import Parley.Service.Connection

namespace Parley

/-- What a model is for. -/
inductive Purpose where
  | chat
  | embedding
  deriving DecidableEq, Repr, Inhabited

/-- The word for a purpose. -/
def Purpose.word : Purpose → String
  | .chat => "chat"
  | .embedding => "embedding"

/-- A model, or what somebody uses in the place of one. -/
inductive AnyModel where
  | chat (m : ChatModel)
  | embedding (m : EmbeddingModel)
  | other (v : Given)
  deriving Inhabited

/-- The name of the kind of a model. -/
def AnyModel.kindName : AnyModel → String
  | .chat m => m.name
  | .embedding m => m.family.modelName
  | .other v => Given.kindName v

/-- How the models of a family are configured and built. -/
structure Provider where
  name : String
  purpose : Purpose
  schema : Schema
  build : Connection → Settings → Except Fault AnyModel
  /-- Build a model within a run, which may do more than that. -/
  setUp : Connection → Settings → Run AnyModel := fun c s => Run.ofExcept (build c s)
  deriving Inhabited

namespace Provider

/-- Pass a bad value among settings on as a failure to set up. -/
def choosing {α : Type} (s : Settings) (x : Except Fault α) : Except Fault α :=
  match x with
  | .ok a => .ok a
  | .error f =>
    if f.isBadValue then
      .error (.raised .initialization s!"Invalid options in {s.schema.name}." (some f))
    else .error f

/-- The provider of a family of chat models. -/
def ofChat (name : String) (family : Family) : Provider where
  name := name
  purpose := .chat
  schema := Schema.chatOf family
  build := fun c s => do
    let o ← choosing s (Options.ofFields family s.optionValues)
    return .chat (← ChatModel.make family o.modelId.value? (some o) c.policy)

/-- The provider of a family of embedding models. -/
def ofEmbedding (name : String) (family : EmbeddingFamily) : Provider where
  name := name
  purpose := .embedding
  schema := Schema.embeddingOf family
  build := fun c s => do
    let o ← choosing s (EmbeddingOptions.ofFields family s.optionValues)
    return .embedding (← EmbeddingModel.make family o.modelId.value? (some o) c.policy)

end Provider

/-- The providers to choose from, in order. -/
abbrev Registry := List Provider

namespace Registry

/-- Add a provider: in the place of the one of its name, or at the end. -/
def register (r : Registry) (p : Provider) : Registry :=
  match r with
  | [] => [p]
  | q :: rest => if q.name == p.name then p :: rest else q :: register rest p

/-- The providers of this library. -/
def standard : Registry := [
  .ofChat "anthropic3-chat" .anthropic3,
  .ofChat "cohere-chat" .cohere,
  .ofChat "llama-chat" .llama,
  .ofChat "titan-chat" .titan,
  .ofChat "jurassic2-chat" .jurassic2,
  .ofChat "mistral-chat" .mistral,
  .ofEmbedding "cohere-embedding" .cohere,
  .ofEmbedding "titan-embedding" .titan]

end Registry

end Parley
