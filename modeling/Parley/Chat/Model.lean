/-
Chat models of the service.

A model belongs to a family, which decides its options and what they are when
nobody says otherwise.  A request is made from the messages and from the options
in force: the model's own, covered by those of the request, covered by the named
arguments.  What comes back is read as a reply, or event by event as updates.
-/
import Parley.Chat.Loop
import Parley.Intake.Options
import Parley.Service.Endpoint
import Parley.Wire.Accumulator
import Parley.Wire.Request

namespace Parley

namespace Family

/-- The name of the models of a family. -/
def modelName : Family → String
  | .general | .hosted => "BedrockConverseChatModel"
  | .anthropic3 => "BedrockAnthropic3ChatModel"
  | .cohere => "BedrockCohereChatModel"
  | .llama => "BedrockLlamaChatModel"
  | .titan => "BedrockTitanChatModel"
  | .jurassic2 => "BedrockJurassic2ChatModel"
  | .mistral => "BedrockMistralChatModel"

/-- The model of a family that is meant when none is named. -/
def defaultModelId? : Family → Option String
  | .general | .hosted => none
  | .anthropic3 => some "anthropic.claude-3-sonnet-20240229-v1:0"
  | .cohere => some "cohere.command-r-v1:0"
  | .llama => some "meta.llama3-70b-instruct-v1:0"
  | .titan => some "amazon.titan-text-express-v1"
  | .jurassic2 => some "ai21.j2-mid-v1"
  | .mistral => some "mistral.mistral-large-2402-v1:0"

/-- The options that a family starts with. -/
def defaultFields : Family → List (String × Given)
  | .general | .hosted => []
  | .anthropic3 => [("temperature", .float 0.8), ("max_tokens", .int 500), ("top_k", .int 10)]
  | .titan => [("temperature", .float 0.7), ("max_tokens", .int 512)]
  | .cohere | .llama | .jurassic2 | .mistral =>
    [("temperature", .float 0.7), ("max_tokens", .int 500)]

end Family

/-- A text that is set. -/
def nonEmpty? (s : Option String) : Option String :=
  s.filter fun s => s != ""

/-- A chat model of the service. -/
structure ChatModel where
  name : String
  family : Family
  defaults : Options
  modelId : Option String
  policy : Policy := {}
  deriving Inhabited

namespace ChatModel

/-- Pass a fault on as one of setting up, if it says that a value was bad. -/
def settingUp {α : Type} (name : String) (x : Except Fault α) : Except Fault α :=
  match x with
  | .ok a => .ok a
  | .error f =>
    if f.isBadValue then
      .error (.raised .initialization s!"Invalid default options for {name}." (some f))
    else .error f

/-- A model of a family.  `own` replaces the options that the family starts with; `layer` is laid
over them. -/
def make (family : Family) (modelId : Option String) (layer : Option Options)
    (policy : Policy) (name : String := family.modelName)
    (own : List (String × Given) := family.defaultFields) : Except Fault ChatModel := do
  let start ← settingUp name (Options.ofFields family own)
  let defaults := start.mergeOption layer
  return {
    name, family, defaults, policy
    modelId := ((nonEmpty? modelId).or (nonEmpty? defaults.modelId.value?)).or
      family.defaultModelId? }

/-! ### The options in force -/

/-- The stop texts of a request: anything but a text is run through. -/
def stopArgument (v : Given) : Except Fault Given :=
  match v with
  | .null => .ok .null
  | .str s => .ok (.str s)
  | v => (Given.items v).map .list

/-- The named arguments of a request that set options. -/
def overrides (arguments : List (String × Given)) : Except Fault (List (String × Given)) := do
  let stop ← stopArgument ((Entries.get? arguments "stop").getD .null)
  return (Entries.put arguments "stop" stop).filter fun (name, v) =>
    name != "chat_options" && !v.isNull

/-- The options given with a request. -/
def layerOf (arguments : List (String × Given)) : Except Fault (Option Options) :=
  match (Entries.get? arguments "chat_options").getD .null with
  | .null => .ok none
  | .leaf (.options o) => .ok (some o)
  | _ => .error (.misuse "chat_options must be an instance of ChatOptions")

/-- Pass a fault on as one of the request, if it says that a value was bad. -/
def requesting {α : Type} (x : Except Fault α) : Except Fault α :=
  match x with
  | .ok a => .ok a
  | .error f =>
    if f.isBadValue then
      .error (.raised .request ("Invalid chat options: " ++ f.message) (some f))
    else .error f

/-- The options in force for a request. -/
def options (m : ChatModel) (arguments : List (String × Given)) : Except Fault Options := do
  let named ← overrides arguments
  let layer ← layerOf arguments
  let base := m.defaults.mergeOption layer
  if named.isEmpty then return base
  else
    let top ← requesting (Options.ofFields base.family named)
    return base.merge top

/-! ### The request -/

/-- The fault of a request without messages. -/
def noMessages : Fault :=
  .raised .request "At least one message is required." none

/-- The fault of a request that names no model. -/
def noModel : Fault :=
  .raised .request "Model ID is required. Set via 'model_id' parameter or chat options." none

/-- The model that a request is for. -/
def modelIdFor (m : ChatModel) (o : Options) : Except Fault String :=
  match (nonEmpty? o.modelId.value?).or (nonEmpty? m.modelId) with
  | some id => .ok id
  | none => .error noModel

/-- A request, with the model that it is for. -/
def prepare (m : ChatModel) (messages : List Given) (arguments : List (String × Given)) :
    Run (String × Document) := do
  let o ← Run.ofExcept (m.options arguments)
  if messages.isEmpty then Run.fail noMessages
  else
    let modelId ← Run.ofExcept (m.modelIdFor o)
    let request ← Run.ofLogged (Wire.request messages o modelId)
    return (modelId, request)

/-! ### Complete replies -/

/-- The message of a reply; an empty one when it has none. -/
def messageOf (reply : Document) : Except Fault Document := do
  let output ← reply.lookup "output" (.obj [])
  let message ← output.lookup "message" .null
  return if message.isSet then message
    else .obj [("role", .str "assistant"), ("content", .list [])]

/-- The identifier of a reply. -/
def replyId (reply : Document) : Except Fault Document := do
  let info ← reply.lookup "ResponseMetadata" (.obj [])
  info.lookup "RequestId" .null

/-- The identifier of a reply as a field of a response. -/
def checkedId (id : Document) : Except Fault (Option String) :=
  (Checked.named "response_id" (Check.optional Check.string id)).orInvalid "ChatResponse"

/-- A reply of the service, and the records about what is left out of it. -/
def read (modelId : String) (reply : Document) : List Record × Except Fault Response :=
  let head : Except Fault (Document × Document × Document) := do
    let message ← messageOf reply
    let id ← replyId reply
    let content ← message.lookup "content" (.list [])
    return (message, id, content)
  match head with
  | .error f => ([], .error f)
  | .ok (message, id, content) => (Wire.blockRemarks content, do
    let contents ← Wire.contents content
    let counts ← reply.lookup "usage" .null
    let usage ← Wire.usage counts
    let stopWord ← reply.lookup "stopReason" .null
    let reason ← Wire.finishReason stopWord
    let generation ← Generation.ofReply reply message
    let id ← checkedId id
    return {
      messages := [{ role := .assistant, contents, raw := message }]
      id, usage
      modelId := some modelId
      finishReason := reason
      metadata := .leaf (.generation generation)
      raw := reply })

/-- Ask for a complete reply. -/
def respond (m : ChatModel) (messages : List Given) (arguments : List (String × Given)) :
    Run Response := do
  let (modelId, request) ← m.prepare messages arguments
  let reply ← Endpoint.converse m.policy request
  Run.ofLogged (read modelId reply)

/-! ### Replies in events -/

/-- The fault that an event of a failing kind reports. -/
def streamFault (kind : EventKind) (detail : Document) : Fault :=
  .raised .response (s!"Bedrock stream failed with {kind.key}: " ++ detail.display) none

/-- What is known of a reply that is being read. -/
structure Reading where
  calls : Accumulator := {}
  updates : List Update := []
  deriving Inhabited

/-- Hand an update to the consumer, and keep it. -/
def Reading.emit (r : Reading) (u : Update) : Run Reading := do
  Run.emit u
  return { r with updates := r.updates ++ [u] }

/-- Take an event about calls, and give back the call that it completes. -/
def Reading.feed (r : Reading) (event : Document) : Run (Reading × Option Content) := do
  let (calls, fed) := r.calls.feed event
  let call ← Run.ofLogged (fed.notes, fed.call)
  return ({ r with calls }, call)

/-- An update with what is known about its event. -/
def updateOf (modelId : String) (g : Generation) (event : Document) : Update where
  role := some .assistant
  modelId := some modelId
  metadata := .leaf (.generation g)
  raw := event

/-- The contents of the message of an event. -/
def shownContents (g : Generation) : Except Fault (List Content) := do
  let content ← g.message.document.lookup "content" (.list [])
  Wire.contents content

/-- The update that an event brings, unless it is about a call. -/
def updateFor (modelId : String) (g : Generation) (kind : EventKind) (event : Document) :
    List Record × Except Fault Update :=
  let u := updateOf modelId g event
  match kind with
  | .blockDelta => ([], (shownContents g).map fun contents => { u with contents })
  | .metadata => ([], do
    let usage ← Wire.usage ((Entries.get? (kind.payload event) "usage").getD .null)
    return { u with contents := [{ body := .usage usage, raw := event }] })
  | .messageStop => ([], (Wire.finishReason g.stopWord).map fun finishReason =>
      { u with finishReason })
  | .unknown =>
    match event.sequence with
    | .error f => ([], .error f)
    | .ok keys =>
      ([⟨.debug, .chat, "Ignoring unknown ConverseStream event: " ++
        (Value.list keys : Document).literal⟩], .ok u)
  | _ => ([], .ok u)

/-- Hand on the update that an event brings, unless it is about a call. -/
def handOn (modelId : String) (r : Reading) (g : Generation) (event : Document) : Run Reading := do
  let g := g.withMessage
  let u ← Run.ofLogged (updateFor modelId g (g.kind?.getD .unknown) event)
  r.emit u

/-- Read one event.  A call is handed on when its last part has arrived. -/
def step (modelId : String) (r : Reading) (event : Document) : Run Reading := do
  let g := Generation.ofEvent event
  let kind := g.kind?.getD .unknown
  if kind.isFailure then
    let detail := (Entries.get? (kind.payload event) "message").getD (.str "")
    Run.say .error .chat
      (s!"Bedrock ConverseStream error event [{kind.key}]: " ++ detail.display)
    Run.fail (streamFault kind detail)
  else if g.isToolPart then
    let (r, _) ← r.feed event
    return r
  else if kind = .blockStop then
    let (r, call) ← r.feed event
    match call with
    | some c => r.emit { updateOf modelId g event with contents := [c] }
    | none => handOn modelId r g event
  else handOn modelId r g event

/-- Ask for a reply in events, and hand on the updates that they bring. -/
def stream (m : ChatModel) (messages : List Given) (arguments : List (String × Given)) :
    Run (List Update) := do
  let (modelId, request) ← m.prepare messages arguments
  let r ← Endpoint.stream m.policy request (step modelId) {}
  return r.updates

/-- The model as a client that runs the calls it is answered with. -/
def client (m : ChatModel) : Client :=
  Client.looped
    { defaults := some m.defaults, respond := m.respond, stream := m.stream }

end ChatModel

end Parley
