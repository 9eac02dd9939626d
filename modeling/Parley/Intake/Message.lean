/-
Messages read from loosely typed data.

A request may be given as a text, as a message or as a sequence of both.  Values
of other kinds are let through here and refused once a message is needed.
-/
import Parley.Intake.Content
import Parley.Chat.Message

namespace Parley

namespace Role

/-- A role from fields. -/
def ofFields (fields : List (String × Given)) : Checked Role :=
  (Check.required fields "value" Check.string).map Role.mk

/-- A role given as a record. -/
def ofGiven (v : Given) : Checked Role :=
  match v with
  | .obj entries => ofFields entries
  | _ => Checked.fail .modelType

end Role

namespace FinishReason

/-- A reason from fields. -/
def ofFields (fields : List (String × Given)) : Checked FinishReason :=
  (Check.required fields "value" Check.string).map FinishReason.mk

/-- A reason given as a record. -/
def ofGiven (v : Given) : Checked FinishReason :=
  match v with
  | .obj entries => ofFields entries
  | _ => Checked.fail .modelType

end FinishReason

namespace Message

open Check

/-- The role of a message: a text is a role by itself. -/
def roleOf (v : Given) : Checked Role :=
  match v with
  | .str s => .ok ⟨s⟩
  | v => Role.ofGiven v

/-- The contents given for a message, followed by its text. -/
def parts (fields : List (String × Given)) : Except Fault (List Given) := do
  let contents ← match present? fields "contents" with
    | some v => Given.items v
    | none => .ok []
  match present? fields "text" with
  | some text =>
    let content ← Content.textOfFields [("text", text)]
    return contents ++ [.leaf (.content content)]
  | none => return contents

/-- A message from fields. -/
def ofFields (fields : List (String × Given)) : Except Fault Message := do
  onlyFields "ChatMessage" ["role", "text", "contents", "author_name", "message_id",
    "raw_representation", "additional_properties"] fields
  match Entries.get? fields "role" with
  | none =>
    .error (.wrongKind "ChatMessage.__init__() missing 1 required positional argument: 'role'")
  | some role =>
    let parts ← parts fields
    let contents ← Content.listOfGiven parts
    (Checked.ap (Checked.ap (Checked.ap (Checked.ap (Checked.ap
      ((Checked.named "role" (roleOf role)).map fun role contents author id raw properties =>
        Message.mk role contents author id raw properties)
      (Checked.named "contents" contents))
      (field fields "author_name" (Check.optional string) none))
      (field fields "message_id" (Check.optional string) none))
      (field fields "raw_representation" anything .null))
      (field fields "additional_properties" (Check.optional Check.properties) none)).orInvalid "ChatMessage"

/-- The messages that a request is given as. -/
def prepare (v : Given) : Except Fault (List Given) :=
  let wrap : Given → Given
    | .str s => .leaf (.message (ofText s))
    | v => v
  match v with
  | .str s => .ok [.leaf (.message (ofText s))]
  | .leaf (.message m) => .ok [.leaf (.message m)]
  | v => (Given.items v).map fun items => items.map wrap

/-- The message that a value is. -/
def ofGiven? : Given → Option Message
  | .leaf (.message m) => some m
  | _ => none

end Message

end Parley
