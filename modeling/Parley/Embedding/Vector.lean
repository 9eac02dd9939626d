/-
Embeddings: vectors with the place of the input that each belongs to.
-/
import Parley.Intake.Content

namespace Parley

/-- The vector of one input. -/
structure Embedding where
  vector : List Float
  index : Int
  deriving Inhabited, Repr

namespace Embedding

/-- An embedding from fields. -/
def ofFields (fields : List (String × Given)) : Except Fault Embedding :=
  (Checked.ap ((Check.required fields "vector" (Check.list Check.float)).map Embedding.mk)
    (Check.required fields "index" Check.int)).orInvalid "Embedding"

/-- The embedding of the input at a place, from the items of its vector. -/
def ofItems (items : List Document) (index : Nat) : Except Fault Embedding :=
  ofFields [("vector", Given.ofDocument (.list items)), ("index", .int index)]

/-- The vectors in the order of their inputs; those of one input keep their order. -/
def ordered (es : List Embedding) : List (List Float) :=
  (es.mergeSort fun a b => a.index ≤ b.index).map Embedding.vector

end Embedding

/-- The embeddings of the inputs of a request. -/
structure EmbeddingResponse where
  embeddings : List Embedding
  modelId : Option String := none
  usage : Option Usage := none
  raw : Document := .null
  deriving Inhabited

end Parley
