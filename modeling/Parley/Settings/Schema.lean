/-
What settings there are.

A schema names the settings of one part of the library: what each is read as,
what it is when nobody says otherwise, and the variable that it is read from.
The variable of a setting is the schema's stem followed by a name, which is the
setting's own in capitals unless the schema says otherwise.
-/
import Parley.Given
import Parley.Text.Case

namespace Parley

/-- What the text of a setting is read as. -/
inductive SettingKind where
  | text
  /-- A text that is never shown. -/
  | secret
  | truth
  | whole
  | real
  /-- Texts, with commas in between. -/
  | words
  deriving DecidableEq, Repr, Inhabited

/-- One setting. -/
structure Setting where
  name : String
  kind : SettingKind
  /-- What holds when nobody says otherwise. -/
  default : Given := .null
  deriving Inhabited

/-- The settings of one part of the library. -/
structure Schema where
  name : String
  stem : String := ""
  /-- The settings that are read from a variable of another name. -/
  renamed : List (String × String) := []
  settings : List Setting := []
  deriving Inhabited

namespace Schema

/-- The variable of a setting. -/
def variableOf (s : Schema) (name : String) : String :=
  s.stem ++ (Entries.get? s.renamed name).getD (Text.upper name)

/-- The names of the settings. -/
def names (s : Schema) : List String := s.settings.map Setting.name

/-- Put a setting in the place of the one of its name, or at the end. -/
def place (settings : List Setting) (own : Setting) : List Setting :=
  match settings with
  | [] => [own]
  | s :: rest => if s.name == own.name then own :: rest else s :: place rest own

/-- A schema with the settings of another one and some of its own. -/
def extending (base : Schema) (name stem : String) (own : List Setting := []) : Schema :=
  { base with name, stem, settings := own.foldl place base.settings }

end Schema

end Parley
