/-
The types of tool parameters, as they are and as they are written.

A type is a tree of a few shapes.  Where it is written down a text may stand for a
type by its name; `Hint` is the tree with such names in it, and `Hint.resolve` puts
the types in their places.  What a name stands for depends on where the function is
made, so it comes from outside, as a `Sense`.

`Hint.arguments` lists what stands in the brackets of a type.  Left out are the
types that no parameter here has: choices that hold truth values, bytes or nothing,
tuples that are no pairs, sequences and mappings other than the built-in ones, and
types of functions.
-/
import Parley.Fault

namespace Parley

/-- A member of a choice. -/
inductive Member where
  | word (w : String)
  | number (n : Int)
  deriving DecidableEq, Repr, Inhabited

/-- A type in which names of type `Name` stand for other types. -/
inductive KindOf (Name : Type) where
  | any
  | int
  | float
  | str
  | bool
  | obj
  | objOf (values : KindOf Name)
  | list
  | listOf (items : KindOf Name)
  | optional (kind : KindOf Name)
  | intOrStr
  | choice (members : List Member)
  | pair (first second : KindOf Name)
  | named (name : Name)
  deriving DecidableEq, Repr, Inhabited

/-- The type of a parameter. -/
abbrev Kind := KindOf Empty

/-- A type as it is written, with texts for names. -/
abbrev Hint := KindOf String

namespace Kind

/-- A choice between words. -/
def words (ws : List String) : Kind := .choice (ws.map .word)

/-- A choice between whole numbers. -/
def numbers (ns : List Int) : Kind := .choice (ns.map .number)

/-- The name under which a type knows its limits. -/
def typeName : Kind → String
  | .any => "any"
  | .int => "int"
  | .float => "float"
  | .str => "str"
  | .bool => "bool"
  | .obj | .objOf _ => "dict"
  | .list | .listOf _ => "list"
  | .optional kind => typeName kind
  | .intOrStr => "union"
  | .choice _ => "literal"
  | .pair _ _ => "tuple"

/-- A type as it is written without names. -/
def hint : Kind → Hint
  | .any => .any
  | .int => .int
  | .float => .float
  | .str => .str
  | .bool => .bool
  | .obj => .obj
  | .objOf values => .objOf (hint values)
  | .list => .list
  | .listOf items => .listOf (hint items)
  | .optional kind => .optional (hint kind)
  | .intOrStr => .intOrStr
  | .choice members => .choice members
  | .pair first second => .pair (hint first) (hint second)

end Kind

/-! ### Names of types -/

/-- What a text stands for that is taken for a type. -/
inductive Sense where
  | type (kind : Kind)
  /-- A name that nothing has, neither when a tool is made nor when it is used. -/
  | unknown
  /-- The name of something that is no type. -/
  | noType (f : Fault)
  /-- No name at all. -/
  | noName (f : Fault)
  deriving Inhabited

/-- The type that a name stands for; `none` when nothing has the name. -/
def Sense.kind? : Sense → Option (Except Fault Kind)
  | .type kind => some (.ok kind)
  | .unknown => none
  | .noType f => some (.error f)
  | .noName f => some (.error f)

namespace Hint

/-- The type that is written; `none` when some name in it is unknown. -/
def resolve (names : String → Sense) : Hint → Option (Except Fault Kind)
  | .any => some (.ok .any)
  | .int => some (.ok .int)
  | .float => some (.ok .float)
  | .str => some (.ok .str)
  | .bool => some (.ok .bool)
  | .obj => some (.ok .obj)
  | .objOf values => (resolve names values).map fun r => r.map .objOf
  | .list => some (.ok .list)
  | .listOf items => (resolve names items).map fun r => r.map .listOf
  | .optional kind => (resolve names kind).map fun r => r.map .optional
  | .intOrStr => some (.ok .intOrStr)
  | .choice members => some (.ok (.choice members))
  | .pair first second =>
    match resolve names first, resolve names second with
    | some a, some b => some (do return .pair (← a) (← b))
    | _, _ => none
  | .named name => (names name).kind?

end Hint

/-! ### What stands in brackets -/

/-- What stands in the brackets of a type or of an annotation: a type, a text, or something else,
of which the name of its kind is known. -/
inductive Argument where
  | type (hint : Hint)
  | text (s : String)
  | other (kind : String)
  deriving Inhabited

namespace Argument

/-- A type as an argument; a name is there as its text. -/
def ofHint : Hint → Argument
  | .named name => .text name
  | hint => .type hint

/-- A member of a choice as an argument. -/
def ofMember : Member → Argument
  | .word w => .text w
  | .number _ => .other "int"

/-- An argument where a type belongs.  A text is taken for a name. -/
def asType (names : String → Sense) : Argument → Except Fault Hint
  | .type hint => .ok hint
  | .text s =>
    match names s with
    | .noName f => .error f
    | _ => .ok (.named s)
  | .other kind => .error (.noAttribute s!"'{kind}' object has no attribute '__module__'")

end Argument

/-- The arguments of a type.  What may be missing is spelled with the kind of nothing, and the names
in it are no texts any more. -/
def Hint.arguments : Hint → List Argument
  | .objOf values => [.type .str, .ofHint values]
  | .listOf items => [.ofHint items]
  | .optional kind => [.type kind, .other "type"]
  | .intOrStr => [.type .int, .type .str]
  | .choice members => members.map .ofMember
  | .pair first second => [.ofHint first, .ofHint second]
  | _ => []

end Parley
