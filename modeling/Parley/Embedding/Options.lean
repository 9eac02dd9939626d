/-
Options of a request for embeddings.

They come in layers like those of a chat request.  The lower layer decides the
family, and a layer laid over it counts only where the family has the field; the
result is checked again, because families differ in the words they allow.
-/
import Parley.Intake.Options

namespace Parley

/-- The model families that embeddings are made for. -/
inductive EmbeddingFamily where
  | general
  | cohere
  | titan
  deriving DecidableEq, Repr, Inhabited

namespace EmbeddingFamily

/-- The name of the options of a family. -/
def optionsName : EmbeddingFamily → String
  | .general => "EmbeddingOptions"
  | .cohere => "CohereEmbeddingOptions"
  | .titan => "TitanEmbeddingOptions"

/-- Every family. -/
def all : List EmbeddingFamily := [.general, .cohere, .titan]

/-- The words for what an input is; the first one holds when nobody says otherwise. -/
def inputTypes : EmbeddingFamily → List String
  | .general => []
  | .cohere => ["search_document", "search_query", "classification", "clustering"]
  | .titan => ["text", "image"]

/-- The words for where a long input is cut; the first one holds when nobody says otherwise. -/
def cuts : EmbeddingFamily → List String
  | .cohere => ["NONE", "START", "END"]
  | _ => []

/-- Whether a family lets a request shape the vectors. -/
def shapesVectors (f : EmbeddingFamily) : Bool := f == .titan

/-- The names of the fields of a family's options. -/
def fieldNames (f : EmbeddingFamily) : List String :=
  ["model_id", "additional_properties"]
    ++ (if f.inputTypes.isEmpty then [] else ["input_type"])
    ++ (if f.cuts.isEmpty then [] else ["truncate"])
    ++ (if f.shapesVectors then ["dimensions", "normalize"] else [])

end EmbeddingFamily

/-- A layer of options. -/
structure EmbeddingOptions where
  family : EmbeddingFamily := .general
  modelId : Slot String := .unset
  properties : Properties := []
  propertiesGiven : Bool := false
  inputType : Slot String := .unset
  truncate : Slot String := .unset
  dimensions : Slot Int := .unset
  normalize : Slot Bool := .unset
  deriving Inhabited

namespace EmbeddingOptions

open Check

/-- A slot for one of a family's words. -/
def wordSlot (fields : List (String × Given)) (name : String) (words : List String) :
    Checked (Slot String) :=
  match words, Entries.get? fields name with
  | _ :: _, some v => (Checked.named name (oneOf words v)).map Slot.filled
  | _, _ => .ok .unset

/-- A slot that only some families have. -/
def slotIf {α : Type} (present : Bool) (fields : List (String × Given)) (name : String)
    (check : Given → Checked α) : Checked (Slot α) :=
  if present then Options.slot fields name check else .ok .unset

/-- Options of a family from fields. -/
def read (family : EmbeddingFamily) (fields : List (String × Given)) : Checked EmbeddingOptions :=
  let given := Entries.has fields "additional_properties"
  Checked.ap (Checked.ap (Checked.ap (Checked.ap (Checked.ap
    ((Options.slot fields "model_id" string).map
      fun modelId properties inputType truncate dimensions normalize =>
        EmbeddingOptions.mk family modelId properties given inputType truncate dimensions normalize)
    (field fields "additional_properties" Check.properties []))
    (wordSlot fields "input_type" family.inputTypes))
    (wordSlot fields "truncate" family.cuts))
    (slotIf family.shapesVectors fields "dimensions" int))
    (slotIf family.shapesVectors fields "normalize" bool)

/-- Options of a family from fields. -/
def ofFields (family : EmbeddingFamily) (fields : List (String × Given)) :
    Except Fault EmbeddingOptions :=
  (read family fields).orInvalid family.optionsName

/-- Change one field.  Setting a name beside the fields leaves the options as they are. -/
def assign (o : EmbeddingOptions) (name : String) (v : Given) : Except Fault EmbeddingOptions := do
  if let some beside := Options.beside? name then
    beside.map fun _ => o
  else if !(o.family.fieldNames).contains name then
    .error (.invalid o.family.optionsName [⟨[.field name], .noSuchAttribute⟩])
  else
    let one ← ofFields o.family [(name, v)]
    return match name with
      | "model_id" => { o with modelId := one.modelId }
      | "input_type" => { o with inputType := one.inputType }
      | "truncate" => { o with truncate := one.truncate }
      | "dimensions" => { o with dimensions := one.dimensions }
      | "normalize" => { o with normalize := one.normalize }
      | _ => { o with properties := one.properties, propertiesGiven := true }

/-- What an input is. -/
def inputWord (o : EmbeddingOptions) : Option String :=
  o.inputType.value?.or o.family.inputTypes.head?

/-- Where a long input is cut. -/
def cutWord (o : EmbeddingOptions) : Option String :=
  o.truncate.value?.or o.family.cuts.head?

/-- A field that was given, as loosely typed data. -/
def entry {α : Type} (name : String) (write : α → Given) : Slot α → List (String × Given)
  | .unset => []
  | .cleared => [(name, .null)]
  | .filled a => [(name, write a)]

/-- The fields that were given, apart from the properties. -/
def fields (o : EmbeddingOptions) : List (String × Given) :=
  entry "model_id" .str o.modelId ++ entry "input_type" .str o.inputType
    ++ entry "truncate" .str o.truncate ++ entry "dimensions" .int o.dimensions
    ++ entry "normalize" .bool o.normalize

/-- The names of the fields that were given. -/
def givenFields (o : EmbeddingOptions) : List String :=
  [("additional_properties", o.propertiesGiven), ("dimensions", o.dimensions.isGiven),
    ("input_type", o.inputType.isGiven), ("model_id", o.modelId.isGiven),
    ("normalize", o.normalize.isGiven), ("truncate", o.truncate.isGiven)].filterMap
    fun (name, given) => if given then some name else none

/-- The fields of a layer that cover those below it. -/
def covering (family : EmbeddingFamily) (top : EmbeddingOptions) : List (String × Given) :=
  top.fields.filter fun (name, v) => family.fieldNames.contains name && !v.isNull

/-- Properties as a field. -/
def propertiesField (properties : Properties) : String × Given :=
  ("additional_properties", .obj (properties.map fun (k, v) => (k, Given.ofDocument v)))

/-- What chat options say about embeddings. -/
def ofChat (o : Options) : EmbeddingOptions := { modelId := o.modelId, properties := o.properties }

/-- What the options say about a chat. -/
def toChat (o : EmbeddingOptions) : Options := { modelId := o.modelId, properties := o.properties }

/-- Lay options over others. -/
def merge (under top : EmbeddingOptions) : Except Fault EmbeddingOptions :=
  ofFields under.family
    (Entries.union under.fields (covering under.family top)
      ++ [propertiesField (Entries.union under.properties top.properties)])

/-- Lay options over others if there are any. -/
def mergeOption (under : EmbeddingOptions) : Option EmbeddingOptions → Except Fault EmbeddingOptions
  | none => .ok under
  | some top => under.merge top

/-- All fields that the family has with their values. -/
def values (o : EmbeddingOptions) : Properties :=
  [("model_id", Options.slotDocument .str o.modelId), ("additional_properties", .obj o.properties),
    ("input_type", .ofText? o.inputWord), ("truncate", .ofText? o.cutWord),
    ("dimensions", Options.slotDocument .int o.dimensions),
    ("normalize", Options.slotDocument .bool o.normalize)].filter
    fun (name, _) => o.family.fieldNames.contains name

/-- Options as they are shown. -/
def shown (o : EmbeddingOptions) : Properties :=
  Options.shownAs o.family.optionsName o.givenFields o.values

/-- Options as a record. -/
def toOpaque (o : EmbeddingOptions) : Opaque :=
  .record o.family.optionsName "" o.values (.obj o.shown)

end EmbeddingOptions

end Parley
