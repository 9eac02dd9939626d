/-
The operations of the service.

Each operation sends a request, tries again as the policy says, and reports a
refusal in the log.  A stream is read event by event and is closed however the
reading ends; once it has begun, nothing is tried again.
-/
import Parley.Service.Retry
import Parley.Access
import Parley.Wire.Text

namespace Parley

namespace Endpoint

/-- Report a refusal in the log. -/
def noteRefusal (operation : String) (f : Fault) : Run Unit :=
  match f with
  | .refused reply _ =>
    let code := ((Fault.errorPart reply "Code").map Value.display).getD "Unknown"
    let message := ((Fault.errorPart reply "Message").map Value.display).getD f.message
    Run.say .error .api (s!"Bedrock {operation} API error [" ++ code ++ "]: " ++ message)
  | _ => pure ()

/-- Run a computation, and report a refusal that ends it. -/
def reporting {α : Type} (operation : String) (x : Run α) : Run α :=
  x.onFault fun f => do
    noteRefusal operation f
    Run.fail f

/-- Announce a request in the log. -/
def announce (operation : String) (modelId : Document) : Run Unit :=
  Run.say .debug .api (s!"{operation} request for model '" ++ modelId.display ++ "'")

/-- Send a request, and again if that may help. -/
def submit (p : Policy) (operation : String) (request : Document) : Run (Value Attachment) :=
  reporting operation (p.retrying (Run.send request))

/-- The entries of a request. -/
def modelOf (request : Document) : Except Fault Document :=
  request.lookup "modelId" .null

/-- Ask for a complete reply. -/
def converse (p : Policy) (request : Document) : Run Document := do
  let modelId ← Run.ofExcept (modelOf request)
  announce "Converse" modelId
  let reply ← submit p "Converse" request
  return Attachment.document reply

/-! ### Streams -/

/-- What a stream delivers, and its number if it has to be closed. -/
def deliveries (reply : Value Attachment) : Except Fault (List Delivery × Option Nat) :=
  match reply with
  | .obj entries =>
    match Entries.get? entries "stream" with
    | none => .ok ([], none)
    | some (.leaf (.events items number)) => .ok (items, number)
    | some v => (Attachment.document v).sequence.map fun items => (items.map .event, none)
  | v => .error (Value.noEntries (Attachment.document v))

/-- Read a stream, with a step for each event. -/
def readAll {σ : Type} (step : σ → Document → Run σ) : List Delivery → σ → Run σ
  | [], acc => return acc
  | .failure f :: _, _ => reporting "ConverseStream" (Run.fail f)
  | .event e :: rest, acc => do
    let acc ← step acc e
    readAll step rest acc

/-- Ask for a reply in events, and read them with a step for each. -/
def stream {σ : Type} (p : Policy) (request : Document) (step : σ → Document → Run σ)
    (start : σ) : Run σ := do
  let modelId ← Run.ofExcept (modelOf request)
  announce "ConverseStream" modelId
  let reply ← submit p "ConverseStream" request
  let (items, number) ← Run.ofExcept (deliveries reply)
  (readAll step items start).finallyDo (Run.closeStream number)

/-! ### Invoking a model -/

/-- The request that invokes a model. -/
def invocation (modelId : Document) (body : String) (contentType accept : Document) : Document :=
  .obj [("modelId", modelId), ("body", .str body), ("contentType", contentType),
    ("accept", accept)]

/-- The bytes of the body of a reply. -/
def bodyOf (reply : Value Attachment) : Except Fault (List UInt8) :=
  match reply with
  | .obj entries =>
    match Entries.get? entries "body" with
    | some (.leaf (.body b)) => .ok b
    | some v =>
      .error (.noAttribute
        s!"'{v.kindName fun a => a.toOpaque.kind}' object has no attribute 'read'")
    | none => .error (.missingKey (.str "body"))
  | .str _ => .error (.wrongKind "string indices must be integers, not 'str'")
  | v => .error (.wrongKind s!"'{v.kindName fun a => a.toOpaque.kind}' object is not subscriptable")

/-- The fault of a body that is not JSON. -/
def notJson (f : Fault) : Fault :=
  .raised .response ("InvokeModel returned a body that is not valid JSON: " ++ f.message) (some f)

/-- The data that a body spells. -/
def readBody (b : List UInt8) : Except Fault Document :=
  match (Text.Encoding.detect b).decode .keep b with
  | .error u => .error (notJson (.undecodable u))
  | .ok cs =>
    match Json.parseChars cs with
    | .ok v => .ok v
    | .error flaw =>
      match Fault.ofJson flaw with
      | .malformedJson flaw => .error (notJson (.malformedJson flaw))
      | f => .error f

/-- The kind of content that bodies are. -/
def jsonType : Document := .str "application/json"

/-- Invoke a model with a body, and read the body that it answers with. -/
def invoke (p : Policy) (modelId body : Document) (contentType accept : Document := jsonType) :
    Run Document := do
  announce "InvokeModel" modelId
  let body ← Run.ofExcept (jsonBody body)
  let reply ← submit p "InvokeModel" (invocation modelId body contentType accept)
  let b ← Run.ofExcept (bodyOf reply)
  Run.ofExcept (readBody b)

end Endpoint

end Parley
