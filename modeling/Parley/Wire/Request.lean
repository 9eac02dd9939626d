/-
The request that a conversation makes.

What the system says travels apart from the messages.  Without tools nothing in
a request may refer to one, so when they are switched off, earlier calls and
results travel as text.
-/
import Parley.Wire.Conversation
import Parley.Wire.Offer
import Parley.Chat.Maker

namespace Parley.Wire

/-- The fault of a request with nothing but what the system says. -/
def onlySystem : Fault :=
  .raised .request "Bedrock Converse needs at least one non-system message." none

/-- The tools of options in the service's form, with the choice between them. -/
def offered (o : Options) : Except Fault (Option Document) := do
  match ← toolConfig (givenTools (o.tools.value?.getD [])) with
  | some (.obj entries) =>
    match toolChoice o.toolChoice.value? with
    | some choice => return some (.obj (Entries.put entries "toolChoice" choice))
    | none => return some (.obj entries)
  | config => return config

/-- The messages of a request and the entry with its tools: either the tools are offered, or
they are off and the messages do without them. -/
def messagesAndTools (messages : List Document) (o : Options) :
    Except Fault (List Document × List (String × Document)) :=
  if o.toolsOff then (flatten messages).map fun flat => (flat, [])
  else (offered o).map fun config => (messages, (config.map fun c => ("toolConfig", c)).toList)

/-- The request that a conversation makes. -/
def requestOf (c : Conversation) (o : Options) (modelId : String) : Except Fault Document := do
  let (messages, tools) ← messagesAndTools c.messages o
  return .obj (
    [("modelId", .str modelId), ("messages", .list messages),
      ("inferenceConfig", inferenceConfig o (Maker.ofModelId modelId).maxTokens)]
    ++ (if c.system.isEmpty then [] else [("system", .list c.system)])
    ++ tools
    ++ (match o.modelFields with
      | some fields => [("additionalModelRequestFields", .obj fields)]
      | none => []))

/-- The record about a limit that a family has no name for. -/
def fieldRemarks (o : Options) : List Record :=
  if o.ignoresTopK then
    [⟨.debug, .options, o.family.optionsName ++ " does not support top_k, ignoring it."⟩]
  else []

/-- The request that messages make, and the records about what it leaves out. -/
def request (messages : List Given) (o : Options) (modelId : String) :
    List Record × Except Fault Document :=
  let remarks := remarksOf messages
  match conversationOf messages with
  | .error f => (remarks, .error f)
  | .ok c =>
    if c.messages.isEmpty then (remarks, .error onlySystem)
    else match requestOf c o modelId with
      | .error f => (remarks, .error f)
      | .ok r => (remarks ++ fieldRemarks o, .ok r)

end Parley.Wire
