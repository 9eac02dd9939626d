/-
Options of a chat request.

Options come in layers: a model's defaults, those given when it was built, those
of a request.  Each field of a layer is a `Slot`, which tells a value that was
never given from one that was cleared; `Options.merge` lays one layer over
another.  The families of models share one set of fields and differ in the name
under which `topK` travels.
-/
import Parley.Chat.ToolMode
import Parley.Chat.Content
import Parley.Tool.Function

namespace Parley

/-- A field of a layer of options. -/
inductive Slot (α : Type) where
  | unset
  | cleared
  | filled (a : α)
  deriving Inhabited, Repr, DecidableEq

namespace Slot

variable {α : Type}

/-- The value in a slot. -/
def value? : Slot α → Option α
  | .filled a => some a
  | _ => none

/-- Whether the field was given at all. -/
def isGiven : Slot α → Bool
  | .unset => false
  | _ => true

/-- Lay a slot over another: only a value covers what is below. -/
def coveredBy (under top : Slot α) : Slot α :=
  match top with
  | .filled a => .filled a
  | _ => under

/-- A slot that is filled, or cleared when there is nothing to fill it with. -/
def ofOption : Option α → Slot α
  | some a => .filled a
  | none => .cleared

end Slot

/-- The model families that options are made for, `general` being all chat models and
`hosted` all those of the service. -/
inductive Family where
  | general
  | hosted
  | anthropic3
  | cohere
  | llama
  | titan
  | jurassic2
  | mistral
  deriving DecidableEq, Repr, Inhabited

namespace Family

/-- The name of the options of a family. -/
def optionsName : Family → String
  | .general => "ChatOptions"
  | .hosted => "BedrockChatOptions"
  | .anthropic3 => "Anthropic3ChatOptions"
  | .cohere => "CohereChatOptions"
  | .llama => "LlamaChatOptions"
  | .titan => "TitanChatOptions"
  | .jurassic2 => "Jurassic2ChatOptions"
  | .mistral => "MistralChatOptions"

/-- Every family. -/
def all : List Family :=
  [.general, .hosted, .anthropic3, .cohere, .llama, .titan, .jurassic2, .mistral]

/-- Whether the options of one family are a case of those of another. -/
def within (a b : Family) : Bool :=
  a == b || b == .general || (b == .hosted && a != .general)

/-- Whether the options of a family can hold `topK`. -/
def hasTopK (f : Family) : Bool := f != .general

/-- The name under which `topK` travels, for the families that know it. -/
def topKField? : Family → Option String
  | .hosted | .anthropic3 | .mistral => some "top_k"
  | .cohere => some "k"
  | _ => none

end Family

/-- Text that ends a reply. -/
inductive Stop where
  | one (s : String)
  | many (ss : List String)
  deriving DecidableEq, Repr, Inhabited

/-- A tool offered to a model: one that can be run here, or a description passed on as it is. -/
inductive ToolItem where
  | tool (t : Tool)
  | described (entries : Properties)
  deriving Inhabited

/-- A layer of options. -/
structure Options where
  family : Family := .general
  modelId : Slot String := .unset
  maxTokens : Slot Int := .unset
  temperature : Slot Float := .unset
  topP : Slot Float := .unset
  stop : Slot Stop := .unset
  toolChoice : Slot ToolMode := .unset
  tools : Slot (List ToolItem) := .unset
  topK : Slot Int := .unset
  properties : Properties := []
  propertiesGiven : Bool := false
  deriving Inhabited

namespace Options

/-- The texts that end a reply; `none` when there are none. -/
def stopSequences (o : Options) : Option (List String) :=
  match o.stop.value? with
  | some (.one "") => none
  | some (.one s) => some [s]
  | some (.many []) => none
  | some (.many ss) => some ss
  | none => none

/-- Lay options over others.  The result belongs to the narrower of the two families if one
contains the other, and to the lower one's otherwise. -/
def merge (under top : Options) : Options where
  family := if top.family.within under.family then top.family else under.family
  modelId := under.modelId.coveredBy top.modelId
  maxTokens := under.maxTokens.coveredBy top.maxTokens
  temperature := under.temperature.coveredBy top.temperature
  topP := under.topP.coveredBy top.topP
  stop := under.stop.coveredBy top.stop
  toolChoice := under.toolChoice.coveredBy top.toolChoice
  tools := under.tools.coveredBy top.tools
  topK := under.topK.coveredBy top.topK
  properties := Entries.union under.properties top.properties
  propertiesGiven := true

/-- Lay options over others if there are any. -/
def mergeOption (under : Options) : Option Options → Options
  | none => under
  | some top => under.merge top

/-- The names of the fields that were given. -/
def givenFields (o : Options) : List String :=
  [("additional_properties", o.propertiesGiven), ("max_tokens", o.maxTokens.isGiven),
    ("model_id", o.modelId.isGiven), ("stop", o.stop.isGiven),
    ("temperature", o.temperature.isGiven), ("tool_choice", o.toolChoice.isGiven),
    ("tools", o.tools.isGiven), ("top_k", o.topK.isGiven), ("top_p", o.topP.isGiven)].filterMap
    fun (name, given) => if given then some name else none

/-- The fields that only some models understand; `none` when there are none. -/
def modelFields (o : Options) : Option Properties :=
  let own : Properties := match o.family.topKField?, o.topK.value? with
    | some name, some k => [(name, .int k)]
    | _, _ => []
  match Entries.union own o.properties with
  | [] => none
  | fields => some fields

/-- Whether `topK` was set for a family that has no name for it. -/
def ignoresTopK (o : Options) : Bool :=
  o.topK.value?.isSome && o.family.topKField?.isNone

/-- Whether tools were switched off. -/
def toolsOff (o : Options) : Bool :=
  match o.toolChoice.value? with
  | some mode => mode.leave == .none
  | none => false

end Options

end Parley
