/-
Functions that tools are made of.

A function has named parameters and a body.  Calling it fits positional and
named arguments to the parameters first, and a call that does not fit is refused
with the reason.
-/
import Parley.Tool.Annotation
import Parley.Fault

namespace Parley

/-- A parameter that takes any number of arguments. -/
inductive Rest where
  | positional
  | named
  deriving DecidableEq, Repr

/-- A parameter of a function. -/
structure Parameter where
  name : String
  annotation : Option Annotation := none
  default : Option Document := none
  keywordOnly : Bool := false
  rest : Option Rest := none
  deriving Inhabited

/-- What a function does with its arguments. -/
inductive Behaviour where
  | echo
  | constant (v : Document)
  | fail (f : Fault)
  /-- A text with the arguments filled in for their names in braces. -/
  | template (s : String)
  | sum
  /-- Whatever else a function makes of its arguments. -/
  | other (run : List (String × Document) → Except Fault Document)
  deriving Inhabited

/-- A function. -/
structure Function where
  name : String
  parameters : List Parameter := []
  documentation : Option String := none
  behaviour : Behaviour := .echo
  deriving Inhabited

/-- A function that a model may call. -/
structure Tool where
  name : String
  description : String := ""
  properties : Option (List (String × Document)) := none
  function : Function
  deriving Inhabited

end Parley
