/-
Who made a model.

The identifier of a model names its maker somewhere, often behind a region.  The
makers are looked for in a fixed order, and the first one found counts.  A maker
decides how long a reply may get when nobody says.
-/
import Parley.Text.Class
import Parley.Text.Split
import Parley.Text.Case

namespace Parley

/-- The makers whose models are told apart. -/
inductive Maker where
  | anthropic
  | cohere
  | llama
  | titan
  | ai21
  | mistral
  | unknown
  deriving DecidableEq, Repr, Inhabited

namespace Maker

/-- The name of the family of models of a maker. -/
def name : Maker → String
  | .anthropic => "ANTHROPIC3"
  | .cohere => "COHERE"
  | .llama => "LLAMA"
  | .titan => "TITAN"
  | .ai21 => "JURASSIC2"
  | .mistral => "MISTRAL"
  | .unknown => "UNKNOWN"

/-- The word that stands for a maker in the identifier of a model. -/
def word : Maker → String
  | .anthropic => "anthropic"
  | .cohere => "cohere"
  | .llama => "meta"
  | .titan => "amazon.titan"
  | .ai21 => "ai21"
  | .mistral => "mistral"
  | .unknown => "unknown"

/-- The makers that are looked for, in order. -/
def known : List Maker := [.anthropic, .cohere, .llama, .titan, .ai21, .mistral]

/-- The maker that the identifier of a model names, in any letter case. -/
def ofModelId (id : String) : Maker :=
  let id := (Text.lower id).toList
  (known.find? fun m => Text.occursIn m.word.toList id).getD .unknown

/-- The most tokens of a reply when nobody says otherwise. -/
def maxTokens : Maker → Int
  | .anthropic => 4096
  | .cohere => 2048
  | .llama => 2048
  | .titan => 3072
  | .ai21 => 2048
  | .mistral => 2048
  | .unknown => 1024

end Maker

end Parley
