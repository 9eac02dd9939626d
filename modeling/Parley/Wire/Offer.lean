/-
What a request offers and allows.

Tools travel as specifications with a schema of their input, the choice between
them as one of three forms, and the limits of the reply under the service's own
names.
-/
import Parley.Tool.Input
import Parley.Intake.Options
import Parley.Log

namespace Parley.Wire

/-- The specification of a tool. -/
def toolSpec (t : Tool) : Except Fault Document :=
  match Input.ofTool? t with
  | none => .error .unresolved
  | some input =>
    let description := if t.description == "" then t.name else t.description
    .ok (.obj [("toolSpec", .obj [
      ("name", .str t.name),
      ("description", .str description),
      ("inputSchema", .obj [("json", .obj input.schema)])])])

/-- The specification of an item, if it is a tool or a description. -/
def toolSpecOf? (v : Given) : Except Fault (Option Document) :=
  match v with
  | .leaf (.tool t) => (toolSpec t).map some
  | .obj entries => .ok (some (.obj (Given.documents entries)))
  | _ => .ok none

/-- Specifications of loosely typed tools; `none` when there are none. -/
def toolConfig (tools : Given) : Except Fault (Option Document) :=
  if !tools.isSet then .ok none
  else do
    let items ← Given.items tools
    let specs ← items.mapM toolSpecOf?
    match specs.filterMap id with
    | [] => return none
    | specs => return some (.obj [("tools", .list specs)])

/-- The records about items that are neither tools nor descriptions. -/
def toolRemarks (tools : Given) : List Record :=
  if !tools.isSet then []
  else ((Given.items? tools).getD []).filterMap fun v =>
    match v with
    | .leaf (.tool _) => none
    | .obj _ => none
    | v => some ⟨.debug, .converse, s!"Ignoring unsupported tool type: {Given.kindName v}"⟩

/-- Offered tools as loosely typed data. -/
def givenTools (tools : List ToolItem) : Given :=
  .list (tools.map fun item =>
    match item with
    | .tool t => .leaf (.tool t)
    | .described entries => Given.ofDocument (.obj entries))

/-- A mode in the service's form; `none` when tools are off. -/
def toolChoice (mode : Option ToolMode) : Option Document :=
  match mode with
  | none => some (.obj [("auto", .obj [])])
  | some ⟨.auto, _⟩ => some (.obj [("auto", .obj [])])
  | some ⟨.none, _⟩ => none
  | some ⟨.required, some ""⟩ => some (.obj [("any", .obj [])])
  | some ⟨.required, some name⟩ => some (.obj [("tool", .obj [("name", .str name)])])
  | some ⟨.required, none⟩ => some (.obj [("any", .obj [])])

/-- The mode that loosely typed data stands for; a word is read as it is among options. -/
def modeOf (v : Given) : Except Fault (Option ToolMode) :=
  match v with
  | .null => .ok none
  | .leaf (.mode m) => .ok (some m)
  | .str s =>
    (Options.ofFields .general [("tool_choice", .str s)]).map fun o => o.toolChoice.value?
  | v => .error (.noAttribute s!"'{Given.kindName v}' object has no attribute 'mode'")

/-- The most tokens of a reply when nothing says otherwise. -/
def defaultMaxTokens : Int := 4096

/-- The limits of a reply in the service's form. -/
def inferenceConfig (o : Options) (maxTokens : Int) : Document :=
  .obj ([("maxTokens", .int (o.maxTokens.value?.getD maxTokens))]
    ++ (match o.temperature.value? with | some x => [("temperature", .float x)] | none => [])
    ++ (match o.topP.value? with | some x => [("topP", .float x)] | none => [])
    ++ (match o.stopSequences with
      | some ss => [("stopSequences", .list (ss.map .str))]
      | none => []))

end Parley.Wire
