/-
Replies, and the updates in which a streamed reply arrives.

`Response.ofUpdates` puts updates together: updates of one role make one
message, neighbouring texts become one, and token counts are summed up.
-/
import Parley.Given

namespace Parley

/-- A reply to a request. -/
structure Response where
  messages : List Message
  id : Option String := none
  modelId : Option String := none
  finishReason : Option FinishReason := none
  usage : Option Usage := none
  metadata : Given := .null
  raw : Document := .null
  properties : Option Properties := none
  deriving Inhabited

/-- A piece of a streamed reply. -/
structure Update where
  contents : List Content := []
  role : Option Role := none
  finishReason : Option FinishReason := none
  responseId : Option String := none
  messageId : Option String := none
  modelId : Option String := none
  metadata : Given := .null
  raw : Document := .null
  properties : Option Properties := none
  deriving Inhabited

/-- The text contents of a reply, joined. -/
def Response.text (r : Response) : String :=
  String.join (r.messages.map Message.text)

/-- The text contents of an update, joined. -/
def Update.text (u : Update) : String :=
  Content.joined u.contents

/-! ### As they are shown -/

/-- A reply as it is shown. -/
def Response.shown (r : Response) : Document :=
  .obj ([("messages", .list (r.messages.map Message.shown)), ("text", .str r.text),
    ("metadata", Given.shown r.metadata), ("response_id", .ofText? r.id),
    ("model_id", .ofText? r.modelId),
    ("finish_reason", .ofText? (r.finishReason.map FinishReason.value)),
    ("usage_details", (r.usage.map Usage.shown).getD .null)]
    ++ Properties.shown r.properties ++ [(rawKey, r.raw)])

/-- An update as it is shown. -/
def Update.shown (u : Update) : Document :=
  .obj ([("contents", .list (u.contents.map Content.shown)), ("text", .str u.text),
    ("metadata", Given.shown u.metadata), ("role", .ofText? (u.role.map Role.value)),
    ("finish_reason", .ofText? (u.finishReason.map FinishReason.value)),
    ("response_id", .ofText? u.responseId), ("message_id", .ofText? u.messageId),
    ("model_id", .ofText? u.modelId)] ++ Properties.shown u.properties ++ [(rawKey, u.raw)])

/-! ### Putting updates together -/

namespace Response

/-- A text that is not empty, or the one before. -/
def orEarlier (new old : Option String) : Option String :=
  match new with
  | some "" => old
  | some s => some s
  | none => old

/-- Add a content behind others; a text joins a text before it. -/
def appendContent (contents : List Content) (c : Content) : List Content :=
  match contents.getLast?.bind Content.text?, c.text? with
  | some before, some s => contents.dropLast ++ [.ofText (before ++ s)]
  | _, _ => contents ++ [c]

/-- What has been put together so far.  The last message is the first of `reversed`. -/
structure Joined where
  reversed : List Message := []
  id : Option String := none
  modelId : Option String := none
  finishReason : Option FinishReason := none
  usage : Option Usage := none
  metadata : Given := .null
  raw : List Document := []
  deriving Inhabited

/-- Add a content to the last message, or its counts to the counts. -/
def Joined.addContent (j : Joined) (c : Content) : Joined :=
  match c.body with
  | .usage u => { j with usage := Usage.gather j.usage u }
  | _ =>
    match j.reversed with
    | m :: earlier => { j with reversed := { m with contents := appendContent m.contents c } :: earlier }
    | [] => j

/-- Make sure that the last message has a role. -/
def Joined.open (j : Joined) (role : Role) (id : Option String) : Joined :=
  match j.reversed with
  | m :: _ => if m.role = role then j else { j with reversed := { role, id } :: j.reversed }
  | [] => { j with reversed := [{ role, id }] }

/-- The role of an update: its own, or that of the message before it. -/
def Joined.roleOf (j : Joined) (u : Update) : Role :=
  match u.role, j.reversed with
  | some role, _ => role
  | none, m :: _ => m.role
  | none, [] => .assistant

/-- Add an update. -/
def Joined.add (j : Joined) (u : Update) : Joined :=
  let j := u.contents.foldl Joined.addContent (j.open (j.roleOf u) u.messageId)
  let (finishReason, metadata) :=
    match u.finishReason with
    | some reason => (some reason, u.metadata)
    | none =>
      if j.finishReason.isNone && !u.metadata.isNull then (none, u.metadata)
      else (j.finishReason, j.metadata)
  { j with
    finishReason, metadata
    id := orEarlier u.responseId j.id
    modelId := orEarlier u.modelId j.modelId
    raw := j.raw ++ [u.raw] }

/-- The reply that updates make. -/
def ofUpdates (updates : List Update) : Response :=
  let j := updates.foldl Joined.add {}
  { messages := j.reversed.reverse
    id := j.id
    modelId := j.modelId
    finishReason := j.finishReason
    usage := j.usage
    metadata := j.metadata
    raw := .list j.raw }

end Response

end Parley
