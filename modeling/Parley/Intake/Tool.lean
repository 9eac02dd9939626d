/-
Tools made of functions.

A tool takes its name and its description from the function unless others are
given; an empty one counts as not given.
-/
import Parley.Intake.Content
import Parley.Tool.Documentation
import Parley.Tool.Input

namespace Parley.Tool

/-- The first value that is set. -/
def firstSet (given : Option Given) (fallback : Given) : Given :=
  match given with
  | some v => if v.isSet then v else fallback
  | none => fallback

/-- The tool that a function makes.  It has to have an input, unless a type refers to an unknown
name, which is found out only later. -/
def ofFunction (f : Function) (name description properties : Option Given := none) :
    Except Fault Tool := do
  if let some fault := Input.fault? f then
    .error fault
  let documented := (f.documentation.map Documentation.clean).getD ""
  (Checked.ap (Checked.ap
    ((Checked.named "name" (Check.string (firstSet name (.str f.name)))).map
      fun name description properties => Tool.mk name description (some properties) f)
    (Checked.named "description" (Check.string (firstSet description (.str documented)))))
    (Checked.named "additional_properties"
      (Check.properties (firstSet properties (.obj []))))).orInvalid "AIFunction"

end Parley.Tool
