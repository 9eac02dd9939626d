/-
Embedding models of the service.

One family takes all inputs in one request and only texts; the other takes one
input a request, which may be an image.  Either way there is one embedding for
each input, in order.
-/
import Parley.Chat.Model
import Parley.Embedding.Options
import Parley.Embedding.Vector
import Parley.Service.Endpoint

namespace Parley

namespace EmbeddingFamily

/-- The name of the models of a family. -/
def modelName : EmbeddingFamily → String
  | .titan => "BedrockTitanEmbeddingModel"
  | _ => "BedrockCohereEmbeddingModel"

/-- The model of a family that is meant when none is named. -/
def defaultModelId : EmbeddingFamily → String
  | .titan => "amazon.titan-embed-image-v1"
  | _ => "cohere.embed-multilingual-v3"

end EmbeddingFamily

/-- An embedding model of the service. -/
structure EmbeddingModel where
  family : EmbeddingFamily
  defaults : EmbeddingOptions
  modelId : String
  policy : Policy := {}
  deriving Inhabited

namespace EmbeddingModel

/-- A model of a family, with a layer laid over the options that it starts with. -/
def make (family : EmbeddingFamily) (modelId : Option String) (layer : Option EmbeddingOptions)
    (policy : Policy) : Except Fault EmbeddingModel := do
  let defaults ← ChatModel.settingUp family.modelName
    (EmbeddingOptions.mergeOption { family } layer)
  return {
    family, defaults, policy
    modelId := ((nonEmpty? modelId).or (nonEmpty? defaults.modelId.value?)).getD
      family.defaultModelId }

/-! ### Inputs and options -/

/-- The fault of a request without inputs. -/
def noInputs : Fault :=
  .raised .request "At least one value is required to create embeddings." none

/-- The inputs that a value is: a text or data is one, anything else is run through. -/
def inputs (v : Given) : Except Fault (List Given) :=
  match v with
  | .str s => .ok [.str s]
  | .leaf (.content ⟨.data d, raw, properties⟩) =>
    .ok [.leaf (.content ⟨.data d, raw, properties⟩)]
  | v => Given.items v

/-- The options in force for a request. -/
def options (m : EmbeddingModel) (layer : Option EmbeddingOptions) :
    Except Fault EmbeddingOptions :=
  match m.defaults.mergeOption layer with
  | .ok o => .ok o
  | .error f =>
    if f.isBadValue then
      .error (.raised .request ("Invalid embedding options: " ++ f.message) (some f))
    else .error f

/-- The model that a request is for. -/
def modelIdFor (m : EmbeddingModel) (o : EmbeddingOptions) : String :=
  (nonEmpty? o.modelId.value?).getD m.modelId

/-- The fault of a reply that holds no embeddings. -/
def unexpected (family modelId : String) : Fault :=
  .raised .response s!"Unexpected {family} embedding response for model '{modelId}'." none

/-! ### All inputs in one request -/

/-- The fault of an input that is no text. -/
def notText : Fault :=
  .raised .request "Cohere embedding models only accept text input." none

/-- The texts that all inputs are. -/
def textsOf (inputs : List Given) : Except Fault (List String) :=
  match inputs.mapM Value.asString? with
  | some texts => .ok texts
  | none => .error notText

/-- The body of a request for all texts. -/
def jointBody (texts : List String) (o : EmbeddingOptions) : Document :=
  .obj (Entries.union
    [("texts", .list (texts.map .str)),
      ("input_type", (o.inputWord.map .str).getD .null),
      ("truncate", (o.cutWord.map .str).getD .null)] o.properties)

/-- The vectors of a reply: a list, or one of several lists under the name of a type. -/
def vectorsOf (reply : Document) : Except Fault (Option (List Document)) := do
  let found := match ← reply.lookup "embeddings" .null with
    | .obj entries => (Entries.get? entries "float").getD .null
    | v => v
  match found with
  | .list vectors => return some vectors
  | _ => return none

/-- Embeddings made of vectors, numbered from `i`. -/
def embeddingsFrom (i : Nat) : List Document → Except Fault (List Embedding)
  | [] => .ok []
  | v :: rest => do
    let items ← v.sequence
    let e ← Embedding.ofItems items i
    let more ← embeddingsFrom (i + 1) rest
    return e :: more

/-- The embeddings of `n` inputs in a reply. -/
def readJoint (modelId : String) (n : Nat) (reply : Document) : Except Fault (List Embedding) := do
  match ← vectorsOf reply with
  | some vectors =>
    if vectors.length = n then embeddingsFrom 0 vectors
    else .error (unexpected "Cohere" modelId)
  | none => .error (unexpected "Cohere" modelId)

/-- Embed all inputs with one request. -/
def embedJointly (m : EmbeddingModel) (inputs : List Given) (o : EmbeddingOptions) :
    Run EmbeddingResponse := do
  let texts ← Run.ofExcept (textsOf inputs)
  let modelId := m.modelIdFor o
  let reply ← Endpoint.invoke m.policy (.str modelId) (jointBody texts o)
  let embeddings ← Run.ofExcept (readJoint modelId inputs.length reply)
  return { embeddings, modelId := some modelId, raw := reply }

/-! ### One input a request -/

/-- The entry of a request that holds an input. -/
def inputEntry (o : EmbeddingOptions) (v : Given) : Except Fault (String × Document) :=
  match v with
  | .leaf (.content ⟨.data d, _, _⟩) =>
    if d.hasTopLevel "image" then
      d.bytes.map fun b => ("inputImage", .str (Base64.text b))
    else
      let name := d.mediaType.getD "None"
      .error (.raised .request s!"Unsupported media type for Titan embeddings: {name}" none)
  | v => .ok (if o.inputWord == some "image" then "inputImage" else "inputText", Given.document v)

/-- The body of a request for one input. -/
def singleBody (o : EmbeddingOptions) (v : Given) : Except Fault Document := do
  let entry ← inputEntry o v
  return .obj (Entries.union
    ([entry]
      ++ (match o.dimensions.value? with | some n => [("dimensions", .int n)] | none => [])
      ++ (match o.normalize.value? with | some b => [("normalize", .bool b)] | none => []))
    o.properties)

/-- What has been embedded so far. -/
structure Progress where
  embeddings : List Embedding := []
  tokens : Document := .int 0
  raw : List Document := []
  deriving Inhabited

/-- Add the reply for one more input. -/
def Progress.add (p : Progress) (modelId : String) (reply : Document) : Except Fault Progress := do
  match ← reply.lookup "embedding" .null with
  | .list vector =>
    let e ← Embedding.ofItems vector p.embeddings.length
    let count ← reply.lookup "inputTextTokenCount" (.int 0)
    let tokens ← p.tokens.plus count
    return ⟨p.embeddings ++ [e], tokens, p.raw ++ [reply]⟩
  | _ => .error (unexpected "Titan" modelId)

/-- Embed inputs one after another. -/
def embedEach (m : EmbeddingModel) (modelId : String) (o : EmbeddingOptions) :
    List Given → Progress → Run Progress
  | [], p => return p
  | v :: rest, p => do
    let body ← Run.ofExcept (singleBody o v)
    let reply ← Endpoint.invoke m.policy (.str modelId) body
    let p ← Run.ofExcept (p.add modelId reply)
    embedEach m modelId o rest p

/-- The counts of a run that used so many tokens. -/
def countsOf (tokens : Document) : Except Fault Usage :=
  (Usage.ofFields [("input_token_count", Given.ofDocument tokens),
    ("total_token_count", Given.ofDocument tokens)]).orInvalid "UsageDetails"

/-- Embed each input with a request of its own. -/
def embedSingly (m : EmbeddingModel) (inputs : List Given) (o : EmbeddingOptions) :
    Run EmbeddingResponse := do
  let modelId := m.modelIdFor o
  let p ← embedEach m modelId o inputs {}
  Run.ofExcept p.tokens.writable
  Run.say .debug .embedding
    (s!"Created {p.embeddings.length} Titan embeddings using " ++ p.tokens.display ++
      " input tokens.")
  let usage ← Run.ofExcept (countsOf p.tokens)
  return { embeddings := p.embeddings, modelId := some modelId, usage := some usage
           raw := .list p.raw }

/-! ### Requests -/

/-- Embed inputs. -/
def embed (m : EmbeddingModel) (values : Given) (layer : Option EmbeddingOptions) :
    Run EmbeddingResponse := do
  let inputs ← Run.ofExcept (inputs values)
  if inputs.isEmpty then Run.fail noInputs
  else
    let o ← Run.ofExcept (m.options layer)
    match m.family with
    | .titan => m.embedSingly inputs o
    | _ => m.embedJointly inputs o

/-- Embed a single input, and give back its vector. -/
def embedOne (m : EmbeddingModel) (value : Given) (layer : Option EmbeddingOptions) :
    Run (List Float) := do
  let r ← m.embed value layer
  match r.embeddings with
  | e :: _ => return e.vector
  | [] => Run.fail noInputs

end EmbeddingModel

end Parley
