/-
The variables of a process.

Everything in a process reads the same variables, and a variable that one part
sets is seen by all parts from then on.
-/
import Parley.Fault

namespace Parley

/-- The variables of a process, each with its text. -/
abbrev Environment := List (String × String)

namespace Environment

/-- The fault of a text that no variable can have. -/
def embeddedNull : Fault := .badValue "embedded null byte"

/-- The fault of a name that no variable can have. -/
def illegalName : Fault := .badValue "illegal environment variable name"

/-- Whether a text holds a character. -/
def holds (s : String) (c : Char) : Bool := s.toList.contains c

/-- Set a variable. -/
def set (env : Environment) (name text : String) : Except Fault Environment :=
  if holds name '\x00' || holds text '\x00' then .error embeddedNull
  else if holds name '=' then .error illegalName
  else .ok (Entries.put env name text)

end Environment

end Parley
