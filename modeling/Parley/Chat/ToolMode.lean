/-
Whether and how a model may call tools.
-/

namespace Parley

/-- The say a model has in calling tools. -/
inductive Leave where
  | auto
  | required
  | none
  deriving DecidableEq, Repr, Inhabited

/-- The word for it. -/
def Leave.word : Leave → String
  | .auto => "auto"
  | .required => "required"
  | .none => "none"

/-- A choice about tools, with the one function that has to be called if there is one. -/
structure ToolMode where
  leave : Leave := .none
  function : Option String := none
  deriving DecidableEq, Repr, Inhabited

namespace ToolMode

/-- The model decides whether to call. -/
def auto : ToolMode := ⟨.auto, none⟩
/-- The model has to call some function. -/
def requiredAny : ToolMode := ⟨.required, none⟩
/-- The model must not call. -/
def off : ToolMode := ⟨.none, none⟩

/-- The modes with a name of their own. -/
def constants : List (String × ToolMode) :=
  [("AUTO", auto), ("REQUIRED_ANY", requiredAny), ("NONE", off)]

/-- The mode behind a word. -/
def named? : String → Option ToolMode
  | "auto" => some auto
  | "required" => some requiredAny
  | "none" => some off
  | _ => none

end ToolMode

end Parley
