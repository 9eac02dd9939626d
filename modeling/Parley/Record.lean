/-
Records among plain data.

A record may end up among plain data: as the argument of a function, as a default,
as something to be run through.  What counts then is which fields it has, in
their order, under the names that a caller would use for them.  Each record also
has a form in which it is shown; there the service's own form of a record stands
under `rawKey`, so that a reader can leave it out.
-/
import Parley.Chat.Message
import Parley.Chat.Options

namespace Parley

namespace Fault

/-- The name of the kind of a fault. -/
def kindName : Fault → String
  | .raised .library _ _ => "BedrockConverseException"
  | .raised .service _ _ => "ServiceException"
  | .raised .initialization _ _ => "ServiceInitializationError"
  | .raised .response _ _ => "ServiceResponseException"
  | .raised .request _ _ => "ServiceInvalidRequestError"
  | .raised .content _ _ => "ContentException"
  | .raised .callArguments _ _ => "FunctionCallInvalidArgumentsException"
  | .raised .callName _ _ => "FunctionCallInvalidNameException"
  | .invalid _ _ => "ValidationError"
  | .badValue _ => "ValueError"
  | .malformedJson _ => "JSONDecodeError"
  | .tooDeep => "RecursionError"
  | .undecodable _ => "UnicodeDecodeError"
  | .unmarked _ => "UnicodeError"
  | .malformedBase64 _ => "Error"
  | .missingKey _ => "KeyError"
  | .outOfRange _ => "IndexError"
  | .wrongKind _ => "TypeError"
  | .misuse _ => "TypeError"
  | .noAttribute _ => "AttributeError"
  | .overflow _ => "OverflowError"
  | .divisionByZero => "ZeroDivisionError"
  | .badSchema => "SchemaError"
  | .unresolved => "PydanticUserError"
  | .unknownEncoding _ => "LookupError"
  | .refused _ _ => "ClientError"
  | .outage .readTimeout _ => "ReadTimeoutError"
  | .outage .connectTimeout _ => "ConnectTimeoutError"
  | .outage .unreachable _ => "EndpointConnectionError"
  | .noCredentials => "NoCredentialsError"
  | .noProfile _ => "ProfileNotFound"
  | .runtime _ => "RuntimeError"
  | .tool _ => "ToolError"

/-- Whether a fault is shown with its wording. -/
def showsText : Fault → Bool
  | .wrongKind _ | .noAttribute _ | .outOfRange _ | .divisionByZero | .badSchema | .overflow _ | .unresolved | .unknownEncoding _
  | .invalid _ _ | .tooDeep => false
  | _ => true

/-- An issue as it is shown: its place, the code of the rule and the rule's own wording. -/
def issueShown (i : Issue) : Document :=
  let step : Step → Document
    | .field name => .str name
    | .index i => .int i
  .list ([.list (i.place.map step), .str i.violation.code]
    ++ (i.violation.text?.map Value.str).toList)

/-- A fault as it is shown: its kind and what it tells. -/
def shown : Fault → List (String × Document)
  | .raised stage text cause? =>
    [("error", .str (kindName (.raised stage text none))), ("message", .str text)]
      ++ (match cause? with
        | some cause => [("cause", .obj cause.shown)]
        | none => [])
  | .invalid title issues =>
    [("error", .str (kindName (.invalid title issues))), ("title", .str title),
      ("details", .list (issues.map issueShown))]
  | .missingKey key => [("error", .str (kindName (.missingKey key))), ("message", key)]
  | f =>
    ("error", .str f.kindName) :: (if f.showsText then [("message", .str f.message)] else [])

/-- A fault among data. -/
def toOpaque (f : Fault) : Opaque := .fault f.kindName f.message f.shown

end Fault

/-- The key under which the service's own form of a record is shown. -/
def rawKey : String := "$raw"

/-- An entry that is left out when there is nothing for it. -/
def Entries.given? (key : String) : Option String → Properties
  | some s => [(key, .str s)]
  | none => []

/-- The entry of properties, left out when there are none. -/
def Properties.shown : Option Properties → Properties
  | some p => [("additional_properties", .obj p)]
  | none => []

/-- A text that may be missing, as data. -/
def Value.ofText? {α : Type} : Option String → Value α
  | some s => .str s
  | none => .null

/-- A number that may be missing, as data. -/
def Value.ofInt? {α : Type} : Option Int → Value α
  | some n => .int n
  | none => .null

/-- Properties that may be missing, as data. -/
def Properties.document? : Option Properties → Document
  | some p => .obj p
  | none => .null

/-- Token counts as they are shown. -/
def Usage.shown (u : Usage) : Document :=
  .obj [("input", .ofInt? u.input), ("output", .ofInt? u.output), ("total", .ofInt? u.total)]

/-- Token counts as a record. -/
def Usage.toOpaque (u : Usage) : Opaque :=
  .record "UsageDetails" "" [("input_token_count", .ofInt? u.input),
    ("output_token_count", .ofInt? u.output), ("total_token_count", .ofInt? u.total)] u.shown

/-- The fields of a choice about tools. -/
def ToolMode.fields (m : ToolMode) : Properties :=
  [("mode", .str m.leave.word), ("required_function_name", .ofText? m.function)]

/-- A choice about tools as a record, which is shown by its fields. -/
def ToolMode.toOpaque (m : ToolMode) : Opaque :=
  .record "ChatToolMode" "" m.fields (.obj m.fields)

/-- A role as a record, which is shown by its word. -/
def Role.toOpaque (r : Role) : Opaque :=
  .record "Role" r.value [("value", .str r.value)] (.str r.value)

/-- The arguments of a requested call as data. -/
def Arguments.document : Arguments → Document
  | .absent => .null
  | .text s => .str s
  | .entries e => .obj e

namespace Content

/-- The name of the kind of content. -/
def kindName (c : Content) : String :=
  match c.body with
  | .text _ => "TextContent"
  | .data _ => "DataContent"
  | .call _ => "FunctionCallContent"
  | .result _ => "FunctionResultContent"
  | .usage _ => "UsageContent"

/-- The fields of a content that only its kind has. -/
def ownFields (c : Content) : Properties :=
  let fault (f : Option Fault) : Document := (f.map fun f => .leaf f.toOpaque).getD .null
  match c.body with
  | .text s => [("text", .str s)]
  | .data d => [("uri", .str d.uri), ("media_type", .ofText? d.mediaType)]
  | .call r => [("call_id", .str r.id), ("name", .str r.name),
      ("arguments", r.arguments.document), ("exception", fault r.fault)]
  | .result r => [("call_id", .str r.id), ("name", .ofText? r.name), ("result", r.value),
      ("exception", fault r.fault)]
  | .usage u => [("details", .leaf u.toOpaque)]

/-- A content as it is shown. -/
def shown (c : Content) : Document :=
  .obj (("type", .str c.tag) :: c.ownFields ++ Properties.shown c.properties ++ [(rawKey, c.raw)])

/-- A content as a record. -/
def toOpaque (c : Content) : Opaque :=
  .record c.kindName "" ([("type", .str c.tag), ("raw_representation", c.raw),
    ("additional_properties", Properties.document? c.properties)] ++ c.ownFields) c.shown

end Content

namespace Message

/-- A message as it is shown. -/
def shown (m : Message) : Document :=
  .obj ([("role", .str m.role.value), ("contents", .list (m.contents.map Content.shown)),
    ("text", .str m.text)] ++ Entries.given? "author_name" m.author
    ++ Entries.given? "message_id" m.id ++ Properties.shown m.properties ++ [(rawKey, m.raw)])

/-- A message as a record. -/
def toOpaque (m : Message) : Opaque :=
  .record "ChatMessage" "" [("role", .leaf m.role.toOpaque),
    ("contents", .list (m.contents.map fun c => .leaf c.toOpaque)),
    ("author_name", .ofText? m.author), ("message_id", .ofText? m.id),
    ("raw_representation", m.raw),
    ("additional_properties", Properties.document? m.properties)] m.shown

end Message

/-- A tool as a record, whose text is its name and which is shown by it. -/
def Tool.toOpaque (t : Tool) : Opaque :=
  .record "AIFunction" t.name [("name", .str t.name), ("description", .str t.description),
    ("additional_properties", Properties.document? t.properties),
    ("func", .leaf (.foreign "function" t.function.name)),
    ("input_model", .leaf (.foreign "ModelMetaclass" ""))] (.leaf (.foreign "AIFunction" t.name))

namespace Options

/-- A field as data. -/
def slotDocument {α : Type} (write : α → Document) (s : Slot α) : Document :=
  (s.value?.map write).getD .null

/-- A text that ends a reply, or several. -/
def stopDocument : Stop → Document
  | .one s => .str s
  | .many ss => .list (ss.map .str)

/-- A tool, or the description of one. -/
def toolDocument : ToolItem → Document
  | .tool t => .leaf t.toOpaque
  | .described entries => .obj entries

/-- All fields with their values. -/
def values (o : Options) : Properties :=
  [("model_id", slotDocument .str o.modelId), ("max_tokens", slotDocument .int o.maxTokens),
    ("temperature", slotDocument .float o.temperature), ("top_p", slotDocument .float o.topP),
    ("stop", slotDocument stopDocument o.stop),
    ("tool_choice", slotDocument (fun m => .leaf m.toOpaque) o.toolChoice),
    ("tools", slotDocument (fun ts => .list (ts.map toolDocument)) o.tools),
    ("additional_properties", .obj o.properties)]
    ++ (if o.family.hasTopK then [("top_k", slotDocument .int o.topK)] else [])

/-- The form in which options of any sort are shown. -/
def shownAs (name : String) (given : List String) (values : Properties) : Properties :=
  [("class", .str name), ("set", .list (given.map .str)), ("values", .obj values)]

/-- Options as they are shown. -/
def shown (o : Options) : Properties :=
  shownAs o.family.optionsName o.givenFields o.values

/-- Options as a record. -/
def toOpaque (o : Options) : Opaque :=
  .record o.family.optionsName "" o.values (.obj o.shown)

end Options

end Parley
