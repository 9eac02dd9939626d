/-
Updates read from loosely typed fields.
-/
import Parley.Intake.Message
import Parley.Chat.Response

namespace Parley.Update

open Check

/-- An update from fields. -/
def ofFields (fields : List (String × Given)) : Except Fault Update := do
  let contents ← match (Entries.get? fields "contents").map Check.items? with
    | some (some vs) => Content.listOfGiven vs
    | some none => .ok (Checked.fail .listType)
    | none => .ok (.ok [])
  (Checked.ap (Checked.ap (Checked.ap (Checked.ap (Checked.ap (Checked.ap (Checked.ap (Checked.ap
    ((Checked.named "contents" contents).map
      fun contents role reason responseId messageId modelId metadata raw properties =>
        Update.mk contents role reason responseId messageId modelId metadata raw properties)
    (field fields "role" (Check.optional Role.ofGiven) none))
    (field fields "finish_reason" (Check.optional FinishReason.ofGiven) none))
    (field fields "response_id" (Check.optional string) none))
    (field fields "message_id" (Check.optional string) none))
    (field fields "model_id" (Check.optional string) none))
    (field fields "generation_metadata" (fun v => .ok v) .null))
    (field fields "raw_representation" anything .null))
    (field fields "additional_properties" (Check.optional Check.properties) none)).orInvalid
      "ChatResponseUpdate"

end Parley.Update
