/-
What is known about one generation.

A complete reply yields its stop word and its message.  A stream event yields
the event itself; its stop word is known only for the event that ends the
message, and its message is made on demand.
-/
import Parley.Chat.Event
import Parley.Chat.Content

namespace Parley

/-- The message of a generation: one that was given, or the shared empty one. -/
inductive Shown where
  | given (v : Document)
  | empty
  deriving Inhabited

/-- What is known about one generation. -/
structure Generation where
  stopWord : Document := .null
  message : Shown := .given .null
  event : Document := .null
  /-- Whether content filters report anything. -/
  filters : Document := .bool false
  /-- The names of the operations that a value was put in place of. -/
  covered : List String := []
  deriving Inhabited

/-- A dictionary is read; anything else has no entries. -/
def Fault.noGet (v : Document) : Fault :=
  .noAttribute s!"'{v.kindName Opaque.kind}' object has no attribute 'get'"

namespace Shown

/-- The blocks of the shared empty message, and its author. -/
def emptyEntries : Properties := [("role", .str "assistant"), ("content", .tuple [])]

/-- A message as data. -/
def document : Shown → Document
  | .given v => v
  | .empty => .obj emptyEntries

/-- A message as a literal; the empty one says that it cannot be changed. -/
def literal : Shown → String
  | .given v => v.literal
  | .empty => "mappingproxy(" ++ (Value.obj emptyEntries : Document).literal ++ ")"

end Shown

namespace Generation

/-- The name that a generation goes by in messages. -/
def title : String := "BedrockConverseChatGenerationMetadata"

/-- What is said when a generation has no part of the given name. -/
def unknownPart (name : String) : Fault :=
  .wrongKind s!"{Generation.title}.__init__() got an unexpected keyword argument '{name}'"

/-- A generation from its parts. -/
def ofFields (parts : Properties) : Except Fault Generation :=
  let part (name : String) : Document := (Entries.get? parts name).getD .null
  match parts.find? fun e => !(["stop_reason", "message", "event"].contains e.1) with
  | some e => .error (unknownPart e.1)
  | none =>
    .ok { stopWord := part "stop_reason", message := .given (part "message"),
          event := part "event" }

/-- The fault of using a value as an operation. -/
def notCallable (name : String) : Fault :=
  .wrongKind s!"the value in place of '{name}' is not callable"

/-- Use an operation, unless a value was put in its place. -/
def uncovered {α : Type} (g : Generation) (name : String) (a : α) : Except Fault α :=
  if g.covered.contains name then .error (notCallable name) else .ok a

/-- Change a part.  The event can only be changed where it is kept, and parts of other names do not
matter.  A value in place of an operation that every look at the generation uses is a fault right
away, and in place of another one when that is used. -/
def assign (g : Generation) (name : String) (v : Document) : Except Fault Generation :=
  match name with
  | "finish_reason" | "_stop_reason" => .ok { g with stopWord := v }
  | "message" | "_message" => .ok { g with message := .given v }
  | "_event" => .ok { g with event := v }
  | "SUPPORTS_CONTENT_FILTER_METADATA" => .ok { g with filters := v }
  | "has_tool_use_payload" | "is_tool_use_event" | "get_content_filter_metadata" =>
    .error (notCallable name)
  | "generate_event_message" | "get_finish_reason" =>
    .ok { g with covered := name :: g.covered }
  | "__class__" | "__dict__" => .error (.wrongKind s!"'{name}' cannot be set")
  | "__weakref__" => .error (.noAttribute s!"'{name}' cannot be set")
  | "event" | "event_kind" =>
    .error (.noAttribute s!"property '{name}' of '{Generation.title}' object has no setter")
  | _ => .ok g

/-- The generation that a complete reply reports. -/
def ofReply (reply message : Document) : Except Fault Generation :=
  match reply with
  | .obj entries =>
    .ok { stopWord := (Entries.get? entries "stopReason").getD .null, message := .given message }
  | v => .error (Fault.noGet v)

/-- The generation that an event reports. -/
def ofEvent (event : Document) : Generation :=
  let stopWord := match EventKind.ofEvent event with
    | .messageStop =>
      (Entries.get? (EventKind.payload .messageStop event) "stopReason").getD .null
    | _ => .null
  { stopWord, event }

/-- The kind of the event, if there is one. -/
def kind? (g : Generation) : Option EventKind :=
  match g.event with
  | .null => none
  | event => some (EventKind.ofEvent event)

/-- The part of a block event that says what the block holds. -/
def blockPart (g : Generation) (kind : EventKind) (key : String) : Option Document :=
  Entries.get? (kind.payload (if g.event.isSet then g.event else .obj [])) key

/-- Whether a part of a block event is about a tool. -/
def mentionsTool (part : Option Document) : Bool :=
  match part with
  | some (.obj entries) => ((Entries.get? entries "toolUse").map fun v => !v.isNull).getD false
  | _ => false

/-- Whether the event starts or continues the input of a tool. -/
def isToolPart (g : Generation) : Bool :=
  match g.kind? with
  | some .blockStart => mentionsTool (g.blockPart .blockStart "start")
  | some .blockDelta => mentionsTool (g.blockPart .blockDelta "delta")
  | _ => false

/-- The text that the event adds, if it adds any. -/
def textPart? (g : Generation) : Option String :=
  match g.kind? with
  | some .blockDelta =>
    match g.blockPart .blockDelta "delta" with
    | some (.obj entries) => (Entries.get? entries "text").bind Value.asString?
    | _ => none
  | _ => none

/-- A message with blocks, in the service's form. -/
def messageOf (role : Document) (blocks : List Document) : Document :=
  .obj [("role", role), ("content", .list blocks)]

/-- Make the message of the event: one block for a text, the empty message otherwise. -/
def withMessage (g : Generation) : Generation :=
  match g.kind? with
  | none => g
  | some _ =>
    match g.textPart? with
    | some s =>
      { g with message := .given (messageOf (.str "assistant") [.obj [("text", .str s)]]) }
    | none => { g with message := .empty }

/-- Make the message on request. -/
def generate (g : Generation) : Except Fault Generation :=
  g.uncovered "generate_event_message" g.withMessage

/-- The stop word on request. -/
def finishWord (g : Generation) : Except Fault Document :=
  g.uncovered "get_finish_reason" g.stopWord

/-- A generation as it is shown. -/
def shown (g : Generation) : Document :=
  .obj [("finish_reason", g.stopWord), ("message", g.message.document), ("event", g.event),
    ("event_kind", (g.kind?.map fun k => .str k.key).getD .null),
    ("is_empty_message", .bool (g.message matches .empty)),
    ("is_tool_use_event", .bool !g.isToolPart), ("has_tool_use_payload", .bool g.isToolPart),
    ("content_filter", .null)]

/-- A generation as a literal. -/
def literal (g : Generation) : String :=
  let kind : Document := (g.kind?.map fun k => .str k.key).getD .null
  title ++ "(finish_reason=" ++ g.stopWord.literal ++ ", event_kind=" ++ kind.literal ++
    ", message=" ++ g.message.literal ++ ")"

end Generation

end Parley
