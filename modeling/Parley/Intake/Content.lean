/-
Contents read from loosely typed fields.

Text and data contents have a fixed set of fields and refuse any other; the
remaining kinds ignore fields that they do not know.
-/
import Parley.Given
import Parley.Check
import Parley.Key

namespace Parley

namespace Check

/-- Data of any kind, without the records in it. -/
def anything (v : Given) : Checked Document := .ok (Given.document v)

/-- A dictionary without the records in it. -/
def properties (v : Given) : Checked Properties :=
  (obj v).map Given.documents

/-- A fault. -/
def fault (v : Given) : Checked Fault :=
  match v with
  | .leaf (.fault f) => .ok f
  | _ => Checked.fail .instanceOf

/-- Refuse entries other than the named ones. -/
def onlyFields (owner : String) (names : List String) (fields : List (String × Given)) :
    Except Fault Unit :=
  match fields.find? fun (name, _) => !names.contains name with
  | some (name, _) =>
    .error (.wrongKind s!"{owner}.__init__() got an unexpected keyword argument '{name}'")
  | none => .ok ()

/-- A field that is absent when it is nothing. -/
def present? (fields : List (String × Given)) (name : String) : Option Given :=
  (Entries.get? fields name).filter fun v => !v.isNull

end Check

namespace Usage

/-- Token counts from fields. -/
def ofFields (fields : List (String × Given)) : Checked Usage :=
  let count (name : String) := Check.field fields name (Check.optional Check.int) none
  Checked.ap (Checked.ap ((count "input_token_count").map Usage.mk) (count "output_token_count"))
    (count "total_token_count")

end Usage

namespace Content

open Check

/-- The fields that every content has: the service's form of it and its properties. -/
def common (fields : List (String × Given)) : Checked (Document × Option Properties) :=
  Checked.ap ((field fields "raw_representation" anything .null).map Prod.mk)
    (field fields "additional_properties" (Check.optional Check.properties) none)

/-- A content from its common fields and its substance, the issues of the former first. -/
def assemble (shared : Checked (Document × Option Properties)) (body : Checked Body) :
    Checked Content :=
  Checked.ap (shared.map fun (raw, properties) body => ⟨body, raw, properties⟩) body

/-- A text content from fields. -/
def textOfFields (fields : List (String × Given)) : Except Fault Content := do
  onlyFields "TextContent" ["text", "raw_representation", "additional_properties"] fields
  match Entries.get? fields "text" with
  | none =>
    .error (.wrongKind "TextContent.__init__() missing 1 required positional argument: 'text'")
  | some v =>
    (assemble (common fields) (Checked.named "text" ((string v).map Body.text))).orInvalid
      "TextContent"

/-- The URI of a data content. -/
def uri (v : Given) : Checked String := do
  let s ← string v
  match DataUri.parts? s with
  | some _ => .ok s
  | none => Checked.fail (.rejected "DataContent requires a base64 data URI.")

/-- The address of a data content and the media type in it, from the fields given. -/
def address (fields : List (String × Given)) : Except Fault (Given × Given) :=
  match present? fields "uri", present? fields "data", present? fields "media_type" with
  | none, some data, some mediaType =>
    match data with
    | .bytes b =>
      .ok (.str (DataUri.ofBytes (Given.document mediaType).display b), mediaType)
    | _ => .error (.wrongKind "a bytes-like object is required")
  | none, _, _ =>
    .error (.badValue "Either 'uri' or both 'data' and 'media_type' must be provided.")
  | some u, _, some mediaType => .ok (u, mediaType)
  | some u, _, none =>
    match u with
    | .str s =>
      let found := (DataUri.parts? s).bind DataUri.Parts.mediaType
      .ok (u, (found.map Value.str).getD .null)
    | _ => .error (.wrongKind "expected string or bytes-like object")

/-- A data content from fields. -/
def dataOfFields (fields : List (String × Given)) : Except Fault Content := do
  onlyFields "DataContent"
    ["uri", "data", "media_type", "raw_representation", "additional_properties"] fields
  let (address, mediaType) ← address fields
  let body := Checked.ap ((Checked.named "uri" (uri address)).map fun u m => Body.data ⟨u, m⟩)
    (Checked.named "media_type" (Check.optional string mediaType))
  (assemble (common fields) body).orInvalid "DataContent"

/-- The arguments of a requested call: a dictionary or a text. -/
def argumentsOf (v : Given) : Checked Arguments :=
  match v with
  | .null => .ok .absent
  | .obj entries => .ok (.entries (Given.documents entries))
  | v =>
    match string v with
    | .ok s => .ok (.text s)
    | .error issues =>
      .error (⟨[.field "dict[str,any]"], .objectType⟩ :: issues.map (Issue.under (.field "str")))

/-- A requested call from fields. -/
def callOfFields (fields : List (String × Given)) : Checked Content :=
  assemble (common fields)
    (Checked.ap (Checked.ap (Checked.ap
      ((required fields "call_id" string).map fun id name arguments fault =>
        Body.call ⟨id, name, arguments, fault⟩)
      (required fields "name" string))
      (field fields "arguments" argumentsOf .absent))
      (field fields "exception" (Check.optional Check.fault) none))

/-- What came of a call, from fields. -/
def resultOfFields (fields : List (String × Given)) : Checked Content :=
  assemble (common fields)
    (Checked.ap (Checked.ap (Checked.ap
      ((required fields "call_id" string).map fun id name value fault =>
        Body.result ⟨id, name, value, fault⟩)
      (field fields "name" (Check.optional string) none))
      (field fields "result" anything .null))
      (field fields "exception" (Check.optional Check.fault) none))

/-- Token counts given as a record or as its fields. -/
def usageOf (v : Given) : Checked Usage :=
  match v with
  | .obj entries => Usage.ofFields entries
  | _ => Checked.fail .modelType

/-- A usage content from fields. -/
def usageOfFields (fields : List (String × Given)) : Checked Content :=
  assemble (common fields) ((required fields "details" usageOf).map Body.usage)

/-- The tags of the kinds of contents. -/
def tags : List String := ["text", "data", "function_call", "function_result", "usage"]

/-- A content of the tagged kind from fields. -/
def ofFields (tag : String) (fields : List (String × Given)) : Except Fault Content :=
  match tag with
  | "text" => textOfFields fields
  | "data" => dataOfFields fields
  | "function_call" => (callOfFields fields).orInvalid "FunctionCallContent"
  | "function_result" => (resultOfFields fields).orInvalid "FunctionResultContent"
  | _ => (usageOfFields fields).orInvalid "UsageContent"

/-- The fault of reading loose fields whose tag cannot be looked up, or whose kind has to be made
before. -/
def tagFault? (v : Given) : Option Fault :=
  match v with
  | .obj entries =>
    match Entries.get? entries "type" with
    | some (.str "text") => some (.wrongKind "TextContent.__init__() got an unexpected keyword argument 'type'")
    | some (.str "data") => some (.wrongKind "DataContent.__init__() got an unexpected keyword argument 'type'")
    | some tag =>
      match Key.ofValue (Given.document tag) with
      | .error f => some f
      | .ok _ => none
    | none => none
  | _ => none

/-- Whether a leaf is a value of the most basic sort, which has no attributes to be read. -/
def isBasic : Leaf → Bool
  | .function _ => true
  | .fault (.badValue _) => true
  | .fault (.runtime _) => true
  | _ => false

/-- A content among the contents of a message.  The tag of loose fields says what they are read
as; a text or data has to be made before. -/
def ofGiven (v : Given) : Checked Content :=
  match v with
  | .leaf (.content c) => .ok c
  | .leaf a => Checked.fail (if isBasic a then .modelAttributesType else .unionTagNotFound)
  | .obj entries =>
    match Entries.get? entries "type" with
    | some (.str "function_call") => Checked.named "function_call" (callOfFields entries)
    | some (.str "function_result") => Checked.named "function_result" (resultOfFields entries)
    | some (.str "usage") => Checked.named "usage" (usageOfFields entries)
    | some _ => Checked.fail .unionTagInvalid
    | none => Checked.fail .unionTagNotFound
  | _ => Checked.fail .modelAttributesType

/-- Contents of a message, read one by one. -/
def listOfGiven (vs : List Given) : Except Fault (Checked (List Content)) :=
  match vs.findSome? tagFault? with
  | some f => .error f
  | none => .ok (Checked.items ofGiven 0 vs)

end Content

end Parley
