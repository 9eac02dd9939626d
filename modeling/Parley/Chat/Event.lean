/-
Events of a streamed reply.

The service streams a reply as events, each a dictionary with one meaningful
key.  The key names the kind of the event and its value is the event's body.
Several kinds report that the stream has failed.
-/
import Parley.Value

namespace Parley

/-- The kinds of events. -/
inductive EventKind where
  | messageStart
  | blockStart
  | blockDelta
  | blockStop
  | messageStop
  | metadata
  | serverError
  | modelError
  | validationError
  | throttled
  | unavailable
  | unknown
  deriving DecidableEq, Repr, Inhabited

namespace EventKind

/-- The key of an event of a kind. -/
def key : EventKind → String
  | .messageStart => "messageStart"
  | .blockStart => "contentBlockStart"
  | .blockDelta => "contentBlockDelta"
  | .blockStop => "contentBlockStop"
  | .messageStop => "messageStop"
  | .metadata => "metadata"
  | .serverError => "internalServerException"
  | .modelError => "modelStreamErrorException"
  | .validationError => "validationException"
  | .throttled => "throttlingException"
  | .unavailable => "serviceUnavailableException"
  | .unknown => "unknown"

/-- The name of a kind. -/
def name : EventKind → String
  | .messageStart => "MESSAGE_START"
  | .blockStart => "CONTENT_BLOCK_START"
  | .blockDelta => "CONTENT_BLOCK_DELTA"
  | .blockStop => "CONTENT_BLOCK_STOP"
  | .messageStop => "MESSAGE_STOP"
  | .metadata => "METADATA"
  | .serverError => "INTERNAL_SERVER_EXCEPTION"
  | .modelError => "MODEL_STREAM_ERROR_EXCEPTION"
  | .validationError => "VALIDATION_EXCEPTION"
  | .throttled => "THROTTLING_EXCEPTION"
  | .unavailable => "SERVICE_UNAVAILABLE_EXCEPTION"
  | .unknown => "UNKNOWN"

/-- The kinds that a key can name. -/
def known : List EventKind :=
  [.messageStart, .blockStart, .blockDelta, .blockStop, .messageStop, .metadata, .serverError,
    .modelError, .validationError, .throttled, .unavailable]

/-- The kind that a key names. -/
def ofKey? (key : String) : Option EventKind :=
  known.find? fun kind => kind.key == key

/-- Whether events of a kind report that the stream has failed. -/
def isFailure : EventKind → Bool
  | .serverError | .modelError | .validationError | .throttled | .unavailable => true
  | _ => false

/-- The kind of an event: that of its first key that names one. -/
def ofEvent (event : Document) : EventKind :=
  match event with
  | .obj entries => (entries.findSome? fun (key, _) => ofKey? key).getD .unknown
  | _ => .unknown

/-- The body of an event of a kind; empty unless it is a dictionary. -/
def payload (kind : EventKind) (event : Document) : List (String × Document) :=
  match event.get? kind.key with
  | some (.obj body) => body
  | _ => []

end EventKind

end Parley
