/-
Options read from loosely typed fields.

Fields that a family does not have are ignored.  A tool choice may be a word,
and tools may be given singly, as functions, or as descriptions in the service's
form.
-/
import Parley.Intake.Tool

namespace Parley

namespace ToolMode

open Check

/-- The say a model has, by its word. -/
def leaveOf (v : Given) : Checked Leave :=
  match v with
  | .str "auto" => .ok .auto
  | .str "required" => .ok .required
  | .str "none" => .ok .none
  | _ => Checked.fail .literal

/-- A mode from fields. -/
def ofFields (fields : List (String × Given)) : Checked ToolMode :=
  Checked.ap ((field fields "mode" leaveOf .none).map ToolMode.mk)
    (field fields "required_function_name" (Check.optional string) Option.none)

/-- A mode given as a record, as its fields or by its word. -/
def ofGiven (v : Given) : Checked ToolMode :=
  match v with
  | .leaf (.mode m) => .ok m
  | .str s =>
    match named? s with
    | some m => .ok m
    | Option.none => Checked.fail (.rejected s!"Invalid tool choice: {s}")
  | .obj entries => ofFields entries
  | _ => Checked.fail .modelType

end ToolMode

namespace ToolItem

/-- A tool, a function made into one, or a description. -/
def ofGiven (v : Given) : Except Fault ToolItem :=
  match v with
  | .leaf (.tool t) => .ok (.tool t)
  | .leaf (.function f) => (Tool.ofFunction f).map ToolItem.tool
  | .obj entries => .ok (.described (Given.documents entries))
  | v => .error (.badValue s!"Unsupported tool type: {Given.kindName v}")

/-- Tools given as a list or singly. -/
def listOfGiven (v : Given) : Checked (List ToolItem) :=
  let items := match v with
    | .list items => items
    | v => [v]
  match items.mapM ofGiven with
  | .ok tools => .ok tools
  | .error fault => Checked.fail (.rejected fault.message)

/-- The fault of making tools of functions, as far as it does not say that a value was bad. -/
def fault? (v : Given) : Option Fault :=
  let items := match v with
    | .list items => items
    | v => [v]
  match items.mapM ofGiven with
  | .error f => if f.isBadValue then none else some f
  | .ok _ => none

end ToolItem

namespace Stop

/-- A text or a list of texts. -/
def ofGiven (v : Given) : Checked Stop :=
  match Check.string v, Check.list Check.string v with
  | .ok s, _ => .ok (.one s)
  | .error _, .ok ss => .ok (.many ss)
  | .error a, .error b =>
    .error (a.map (Issue.under (.field "str")) ++ b.map (Issue.under (.field "list[str]")))

end Stop

namespace Options

open Check

/-- A slot for a field that may be cleared. -/
def slot {α : Type} (fields : List (String × Given)) (name : String)
    (check : Given → Checked α) : Checked (Slot α) :=
  match Entries.get? fields name with
  | some v => (Checked.named name (Check.optional check v)).map Slot.ofOption
  | none => .ok .unset

/-- Options of a family from fields. -/
def read (family : Family) (fields : List (String × Given)) : Checked Options :=
  let given := Entries.has fields "additional_properties"
  Checked.ap (Checked.ap (Checked.ap (Checked.ap (Checked.ap (Checked.ap (Checked.ap (Checked.ap
    ((slot fields "model_id" string).map
      fun modelId maxTokens temperature topP stop toolChoice tools properties topK =>
        Options.mk family modelId maxTokens temperature topP stop toolChoice tools topK
          properties given)
    (slot fields "max_tokens" positive))
    (slot fields "temperature" probability))
    (slot fields "top_p" probability))
    (slot fields "stop" Stop.ofGiven))
    (slot fields "tool_choice" ToolMode.ofGiven))
    (slot fields "tools" ToolItem.listOfGiven))
    (field fields "additional_properties" Check.properties []))
    (if family.hasTopK then slot fields "top_k" positive else .ok .unset)

/-- Options of a family from fields. -/
def ofFields (family : Family) (fields : List (String × Given)) : Except Fault Options :=
  match (Entries.get? fields "tools").bind ToolItem.fault? with
  | some f => .error f
  | none => (read family fields).orInvalid family.optionsName

/-- The names of the fields of a family's options. -/
def fieldNames (family : Family) : List String :=
  ["model_id", "max_tokens", "temperature", "top_p", "stop", "tool_choice", "tools",
    "additional_properties"] ++ (if family.hasTopK then ["top_k"] else [])

/-- Whether a name stands for something that follows from the fields or from the family. -/
def isDerived (family : Family) (name : String) : Bool :=
  name == "stop_sequences" || (family.hasTopK && name == "TOP_K_FIELD")

/-- What comes of setting a name that is kept beside the fields: most can be set to anything. -/
def beside? (name : String) : Option (Except Fault Unit) :=
  if name == "__class__" || name == "__dict__" then
    some (.error (.wrongKind s!"'{name}' cannot be set"))
  else if ["__fields_set__", "__weakref__", "model_fields_set", "model_extra"].contains name then
    some (.error (.noAttribute s!"'{name}' has no setter"))
  else if name.startsWith "_" then some (.ok ())
  else none

/-- Change one field.  Setting a name beside the fields leaves the options as they are. -/
def assign (o : Options) (name : String) (v : Given) : Except Fault Options := do
  if let some beside := beside? name then
    beside.map fun _ => o
  else if isDerived o.family name then
    .error (.noAttribute s!"'{name}' of '{o.family.optionsName}' cannot be set")
  else if !(fieldNames o.family).contains name then
    .error (.invalid o.family.optionsName [⟨[.field name], .noSuchAttribute⟩])
  else
    let one ← ofFields o.family [(name, v)]
    return match name with
      | "model_id" => { o with modelId := one.modelId }
      | "max_tokens" => { o with maxTokens := one.maxTokens }
      | "temperature" => { o with temperature := one.temperature }
      | "top_p" => { o with topP := one.topP }
      | "stop" => { o with stop := one.stop }
      | "tool_choice" => { o with toolChoice := one.toolChoice }
      | "tools" => { o with tools := one.tools }
      | "top_k" => { o with topK := one.topK }
      | _ => { o with properties := one.properties, propertiesGiven := true }

end Options

end Parley
