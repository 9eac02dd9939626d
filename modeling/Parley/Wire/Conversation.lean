/-
Messages in the service's form.

System messages travel apart from the conversation, and all other roles but the
assistant's speak as the user.  A request without tools may not hold blocks
about tools; `flatten` tells what they hold as text instead.
-/
import Parley.Wire.Block
import Parley.Intake.Message

namespace Parley

namespace Wire

/-- A message in the service's form. -/
def message (role : Document) (blocks : List Document) : Document :=
  .obj [("role", role), ("content", .list blocks)]

/-- A message made of loosely typed blocks, with keys that are no texts written by `keyText`. -/
def messageOf (contents role : Document) (keyText : Document → String := jsonText) :
    Except Fault Document := do
  let blocks ← Value.sequence contents
  let blocks ← blocks.mapM fun b => (Value.entriesOf keyText b).map Value.obj
  return message role blocks

/-- Who a role speaks as. -/
def speaker (r : Role) : String :=
  if r = .assistant then "assistant" else "user"

/-- A conversation in the service's form, and what the system says apart from it. -/
structure Conversation where
  messages : List Document := []
  system : List Document := []
  deriving Inhabited

/-- A conversation with one more message in front. -/
def Conversation.cons (m : Message) (blocks : List Document) (c : Conversation) : Conversation :=
  if m.role = .system then { c with system := Block.text m.text :: c.system }
  else { c with messages := message (.str (speaker m.role)) blocks :: c.messages }

/-- The blocks of a message; what the system says is not written as blocks. -/
def blocksOf (m : Message) : Except Fault (List Document) :=
  if m.role = .system then .ok [] else Block.ofContents m.contents

/-- Messages in the service's form. -/
def conversation : List Message → Except Fault Conversation
  | [] => .ok {}
  | m :: rest => do
    let blocks ← blocksOf m
    let more ← conversation rest
    return more.cons m blocks

/-- What asking a value that is no message for its role comes to. -/
def noMessage (v : Given) : Fault :=
  .noAttribute s!"'{Given.kindName v}' object has no attribute 'role'"

/-- Values in the service's form, if all of them are messages. -/
def conversationOf (vs : List Given) : Except Fault Conversation := do
  let (ms, other) := Given.leading Message.ofGiven? vs
  let c ← conversation ms
  match other with
  | some v => .error (noMessage v)
  | none => return c

/-- The records about contents that are left out, up to a message that cannot be written. -/
def remarks : List Message → List Record
  | [] => []
  | m :: rest =>
    if m.role = .system then remarks rest
    else
      match Block.ofContents m.contents with
      | .ok _ => Block.remarks m.contents ++ remarks rest
      | .error _ => Block.remarks m.contents

/-- The records about the leading messages among values. -/
def remarksOf (vs : List Given) : List Record :=
  remarks (Given.leading Message.ofGiven? vs).1

/-! ### Blocks about tools as text -/

/-- What an item of a result says. -/
def itemText (v : Document) : Except Fault Document := do
  if ← v.contains "text" then v.entry "text"
  else
    let data ← v.lookup "json" .null
    let text ← jsonOf data
    return .str text

/-- A requested call as text. -/
def calledText (use : Document) : Except Fault Document := do
  let input ← use.lookup "input" (.obj [])
  let name ← use.lookup "name" .null
  let text ← jsonOf input
  name.writable
  return Block.text ("Called tool " ++ name.display ++ " with input " ++ text)

/-- A result as text. -/
def resultText (result : Document) : Except Fault Document := do
  let content ← result.lookup "content" (.list [])
  let items ← content.sequence
  let parts ← items.mapM itemText
  let parts ← parts.mapM Value.expectText
  return Block.text ("Tool result: " ++ " ".intercalate parts)

/-- A block with what it tells about a tool as text. -/
def flattenBlock (b : Document) : Except Fault Document := do
  let use ← b.lookup "toolUse" .null
  if use.isSet then calledText use
  else
    let result ← b.lookup "toolResult" .null
    if result.isSet then resultText result else return b

/-- A message with what it tells about tools as text. -/
def flattenMessage (m : Document) : Except Fault Document := do
  let content ← m.entry "content"
  let blocks ← content.sequence
  let blocks ← blocks.mapM flattenBlock
  let role ← m.entry "role"
  return message role blocks

/-- Messages with what they tell about tools as text. -/
def flatten (messages : List Document) : Except Fault (List Document) :=
  messages.mapM flattenMessage

end Wire

end Parley
