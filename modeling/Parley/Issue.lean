/-
What is wrong with a record.

Records are checked field by field, and every field that fails is reported.  An
`Issue` names the place, as a path of field names and positions, and the rule
that the value there breaks.  `Checked` carries either a value or such a list;
`Checked.ap` is what lets two failing fields both be reported.
-/
import Parley.Value

namespace Parley

/-- One step of the path to a value inside a record. -/
inductive Step where
  | field (name : String)
  | index (i : Nat)
  deriving DecidableEq, Repr

/-- The rule that a value breaks. -/
inductive Violation where
  | missing
  | stringType
  | stringUnicode
  | stringTooShort
  | stringTooLong
  | stringPattern
  | objectType
  | listType
  | tupleType
  | tooShort
  | tooLong
  | boolType
  | boolParsing
  | intType
  | intParsing
  | intParsingSize
  | intFromFloat
  | finiteNumber
  | floatType
  | floatParsing
  | greaterThan
  | greaterThanEqual
  | lessThan
  | lessThanEqual
  | multipleOf
  | literal
  | modelType
  | modelAttributesType
  | unionTagNotFound
  | unionTagInvalid
  | instanceOf
  | frozen
  | noSuchAttribute
  /-- A rule of the record itself, with its own wording. -/
  | rejected (text : String)
  deriving DecidableEq, Repr

/-- The code of a rule. -/
def Violation.code : Violation → String
  | .missing => "missing"
  | .stringType => "string_type"
  | .stringUnicode => "string_unicode"
  | .stringTooShort => "string_too_short"
  | .stringTooLong => "string_too_long"
  | .stringPattern => "string_pattern_mismatch"
  | .objectType => "dict_type"
  | .listType => "list_type"
  | .tupleType => "tuple_type"
  | .tooShort => "too_short"
  | .tooLong => "too_long"
  | .boolType => "bool_type"
  | .boolParsing => "bool_parsing"
  | .intType => "int_type"
  | .intParsing => "int_parsing"
  | .intParsingSize => "int_parsing_size"
  | .intFromFloat => "int_from_float"
  | .finiteNumber => "finite_number"
  | .floatType => "float_type"
  | .floatParsing => "float_parsing"
  | .greaterThan => "greater_than"
  | .greaterThanEqual => "greater_than_equal"
  | .lessThan => "less_than"
  | .lessThanEqual => "less_than_equal"
  | .multipleOf => "multiple_of"
  | .literal => "literal_error"
  | .modelType => "model_type"
  | .modelAttributesType => "model_attributes_type"
  | .unionTagNotFound => "union_tag_not_found"
  | .unionTagInvalid => "union_tag_invalid"
  | .instanceOf => "is_instance_of"
  | .frozen => "frozen_instance"
  | .noSuchAttribute => "no_such_attribute"
  | .rejected _ => "value_error"

/-- The wording that a record gives for breaking its own rule. -/
def Violation.text? : Violation → Option String
  | .rejected text => some ("Value error, " ++ text)
  | _ => none

/-- A value that breaks a rule, and where it stands. -/
structure Issue where
  place : List Step
  violation : Violation
  deriving DecidableEq, Repr

/-- An issue with a value as a whole. -/
def Issue.here (v : Violation) : Issue := ⟨[], v⟩

/-- The same issue seen from one step further out. -/
def Issue.under (s : Step) (i : Issue) : Issue := ⟨s :: i.place, i.violation⟩

/-- A step as it is written in a place, where points separate the steps. -/
def Step.text : Step → String
  | .field name => if name.toList.contains '.' then "\x60" ++ name ++ "\x60" else name
  | .index i => toString i

/-- An issue in one line. -/
def Issue.text (i : Issue) : String :=
  ".".intercalate (i.place.map Step.text) ++ ": " ++ i.violation.code ++
    match i.violation.text? with
    | some text => " (" ++ text ++ ")"
    | none => ""

/-- All issues of a record in one line. -/
def Issue.summary (title : String) (issues : List Issue) : String :=
  let noun := if issues.length = 1 then "error" else "errors"
  s!"{issues.length} validation {noun} for {title} [" ++
    "; ".intercalate (issues.map Issue.text) ++ "]"

/-- A value that passed its checks, or what is wrong with it. -/
abbrev Checked := Except (List Issue)

namespace Checked

variable {α β : Type}

/-- Break a rule. -/
def fail (v : Violation) : Checked α := .error [Issue.here v]

/-- Apply a function to an argument that is checked beside it; the issues of both are kept. -/
def ap (f : Checked (α → β)) (a : Checked α) : Checked β :=
  match f, a with
  | .ok f, .ok a => .ok (f a)
  | .ok _, .error more => .error more
  | .error issues, .ok _ => .error issues
  | .error issues, .error more => .error (issues ++ more)

/-- Report the issues of a value from one step further out. -/
def under (s : Step) : Checked α → Checked α
  | .ok a => .ok a
  | .error issues => .error (issues.map (Issue.under s))

/-- Report the issues of a value under the name of its field. -/
def named (name : String) (a : Checked α) : Checked α := a.under (.field name)

/-- Check every item, numbered from `i`, and keep all issues. -/
def items (check : α → Checked β) (i : Nat) : List α → Checked (List β)
  | [] => .ok []
  | a :: rest => ap ((under (.index i) (check a)).map List.cons) (items check (i + 1) rest)

end Checked

end Parley
