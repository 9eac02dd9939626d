/-
Templates.

A template is a text with fields in braces.  A field names an argument, may go on
to an attribute or an item of it, may turn it into a literal, and may say how the
value is laid out; that part may hold fields again.  A doubled brace stands for
one.  `fill` puts the arguments in, from left to right, and ends with the first
fault.
-/
import Parley.Template.Spec
import Parley.Access

namespace Parley.Template

/-! ### Reaching into a value -/

/-- The kind of a value as a record. -/
def kindOf (v : Document) : Document :=
  let kind := v.kindName Opaque.kind
  .leaf (.record "type" ("<class '" ++ kind ++ "'>")
    [("__name__", .str kind), ("__qualname__", .str kind), ("__module__", .str "builtins")] .null)

/-- The parts of a whole number. -/
def wholeParts (n : Int) : List (String × Document) :=
  [("real", .int n), ("imag", .int 0), ("numerator", .int n), ("denominator", .int 1)]

/-- The attributes of a value. -/
def attributes : Document → List (String × Document)
  | .int n => wholeParts n
  | .bool b => wholeParts (if b then 1 else 0)
  | .float x => [("real", .float x), ("imag", .float 0.0)]
  | .leaf (.record _ _ fields _) => fields
  | _ => []

/-- An attribute of a value. -/
def attributeOf (v : Document) (name : String) : Except Fault Document :=
  if name == "__class__" then .ok (kindOf v)
  else
    match Entries.get? (attributes v) name with
    | some a => .ok a
    | none =>
      .error (.noAttribute s!"'{v.kindName Opaque.kind}' object has no attribute '{name}'")

/-- The fault of asking a value for items that it does not have. -/
def noItems (v : Document) : Fault :=
  .wrongKind s!"'{v.kindName Opaque.kind}' object is not subscriptable"

/-- An item of a value by its position. -/
def itemAt (v : Document) (i : Nat) : Except Fault Document :=
  let get (items : List Document) (what : String) : Except Fault Document :=
    match items[i]? with
    | some item => .ok item
    | none => .error (.outOfRange (what ++ "index out of range"))
  match v with
  | .list items => get items "list "
  | .tuple items => get items "tuple "
  | .str s => get (s.toList.map fun c => .str c.toString) "string "
  | .bytes b => get (b.map fun x => .int x.toNat) ""
  | .obj _ => .error (.missingKey (.int i))
  | v => .error (noItems v)

/-- An item of a value by a text. -/
def itemNamed (v : Document) (name : String) : Except Fault Document :=
  match v with
  | .obj entries =>
    match Entries.get? entries name with
    | some item => .ok item
    | none => .error (.missingKey (.str name))
  | .list _ => .error (.wrongKind "list indices must be integers or slices, not str")
  | .tuple _ => .error (.wrongKind "tuple indices must be integers or slices, not str")
  | .str _ => .error (.wrongKind "string indices must be integers, not 'str'")
  | .bytes _ => .error (.wrongKind "byte indices must be integers or slices, not str")
  | v => .error (noItems v)

/-- The position that a name is, if it is one. -/
def position? (name : List Char) : Except Fault (Option Nat) :=
  match takeDigits name with
  | (_ :: _, []) => (numberOf (takeDigits name).1).map some
  | _ => .ok none

/-- Whether a character starts the next step of a path. -/
def startsStep (c : Char) : Bool := c = '.' || c = '['

/-- Follow the steps of a path from a value.  The count bounds the steps. -/
def follow (v : Document) : Nat → List Char → Except Fault Document
  | 0, _ => .ok v
  | _, [] => .ok v
  | n + 1, c :: rest =>
    let empty : Fault := .badValue "Empty attribute in format string"
    if c = '.' then
      let name := rest.takeWhile fun c => !startsStep c
      if name.isEmpty then .error empty
      else do
        let a ← attributeOf v (String.ofList name)
        follow a n (rest.dropWhile fun c => !startsStep c)
    else if c = '[' then
      let name := rest.takeWhile (· != ']')
      match rest.dropWhile (· != ']') with
      | [] => .error (.badValue "Missing ']' in format string")
      | _ :: more =>
        if name.isEmpty then .error empty
        else do
          let item ← match ← position? name with
            | some i => itemAt v i
            | none => itemNamed v (String.ofList name)
          follow item n more
    else .error (.badValue "Only '.' or '[' may follow ']' in format field specifier")

/-- The value that a path leads to.  There are no arguments by position. -/
def lookup (args : List (String × Document)) (path : List Char) : Except Fault Document := do
  let name := path.takeWhile fun c => !startsStep c
  let steps := path.dropWhile fun c => !startsStep c
  let missing (i : Nat) : Fault :=
    .outOfRange s!"Replacement index {i} out of range for positional args tuple"
  match name, ← position? name with
  | [], _ => .error (missing 0)
  | _, some i => .error (missing i)
  | _, none =>
    match Entries.get? args (String.ofList name) with
    | some v => follow v steps.length steps
    | none => .error (.missingKey (.str (String.ofList name)))

/-! ### Showing a value -/

/-- A literal with everything that is not ASCII escaped. -/
def plainLiteral (s : String) : List Char :=
  s.toList.flatMap fun c =>
    let n := c.toNat
    if n < 0x80 then [c]
    else if n < 0x100 then '\\' :: 'x' :: Text.hexDigits 2 n
    else if n < 0x10000 then '\\' :: 'u' :: Text.hexDigits 4 n
    else '\\' :: 'U' :: Text.hexDigits 8 n

/-- A value turned into a text first, as the character behind the exclamation mark says. -/
def converted (v : Document) : Option Char → Except Fault Document
  | none => .ok v
  | some 'r' => .ok (.str v.literal)
  | some 's' => .ok (.str v.display)
  | some 'a' => .ok (.str (String.ofList (plainLiteral v.literal)))
  | some c => .error (.badValue s!"Unknown conversion specifier {shownChar c 127}")

/-- A value laid out. -/
def laidOut (v : Document) (spec : List Char) : Except Fault (List Char) :=
  match v with
  | .str s => Spec.text spec s.toList
  | v =>
    if spec.isEmpty then .ok v.display.toList
    else
      match v with
      | .int n => Spec.whole "int" spec n
      | .bool b => Spec.whole "bool" spec (if b then 1 else 0)
      | .float x => Spec.real spec x
      | v =>
        .error (.wrongKind
          s!"unsupported format string passed to {v.kindName Opaque.kind}.__format__")

/-! ### Fields -/

/-- A field: its path, what the value is turned into, and how it is laid out. -/
structure Slot where
  path : List Char
  conversion : Option Char := none
  spec : List Char := []
  /-- Whether the layout holds fields itself. -/
  nested : Bool := false

/-- The path of a field up to its end, the character that ends it, and the rest.  Inside brackets
every character belongs to the path. -/
def takePath (inside : Bool) : List Char → Except Fault (List Char × Char × List Char)
  | [] => .error (.badValue "expected '\x7d' before end of string")
  | c :: rest =>
    let go (inside : Bool) := (takePath inside rest).map fun (path, mark, more) =>
      (c :: path, mark, more)
    if inside then go (c != ']')
    else if c = '\x7b' then .error (.badValue "unexpected '\x7b' in field name")
    else if c = '\x7d' || c = ':' || c = '!' then .ok ([], c, rest)
    else go (c == '[')

/-- The layout of a field up to the brace that closes it, whether it holds braces, and the rest. -/
def takeSpec (depth : Nat) : List Char → Except Fault (List Char × Bool × List Char)
  | [] => .error (.badValue "unmatched '\x7b' in format spec")
  | c :: rest =>
    if c = '\x7b' then
      (takeSpec (depth + 1) rest).map fun (spec, _, more) => (c :: spec, true, more)
    else if c = '\x7d' then
      match depth with
      | 0 => .ok ([], false, rest)
      | depth + 1 => (takeSpec depth rest).map fun (spec, nested, more) => (c :: spec, nested, more)
    else (takeSpec depth rest).map fun (spec, nested, more) => (c :: spec, nested, more)

/-- The field behind an opening brace, and the rest. -/
def takeSlot (cs : List Char) : Except Fault (Slot × List Char) := do
  let (path, mark, rest) ← takePath false cs
  let laidOut (conversion : Option Char) (rest : List Char) : Except Fault (Slot × List Char) :=
    (takeSpec 0 rest).map fun (spec, nested, more) => (⟨path, conversion, spec, nested⟩, more)
  if mark = '\x7d' then return (⟨path, none, [], false⟩, rest)
  else if mark = ':' then laidOut none rest
  else
    match rest with
    | [] => .error (.badValue "end of string while looking for conversion specifier")
    | [c] => laidOut (some c) []
    | c :: '\x7d' :: more => return (⟨path, some c, [], false⟩, more)
    | c :: ':' :: more => laidOut (some c) more
    | _ => .error (.badValue "expected ':' after conversion specifier")

/-- Whether a character is a brace. -/
def isBrace (c : Char) : Bool := c = '\x7b' || c = '\x7d'

/-- A template with the arguments filled in.  Fields may stand inside fields `depth` deep; the count
bounds the pieces. -/
def fillFrom (args : List (String × Document)) :
    Nat → Nat → List Char → Except Fault (List Char)
  | 0, _, _ => .ok []
  | _, 0, _ => .error (.badValue "Max string recursion exceeded")
  | n + 1, depth + 1, cs =>
    let before := cs.takeWhile fun c => !isBrace c
    match cs.dropWhile fun c => !isBrace c with
    | [] => .ok before
    | [c] => .error (.badValue s!"Single '{c}' encountered in format string")
    | c :: next :: rest =>
      if c = next then (fillFrom args n (depth + 1) rest).map fun more => before ++ c :: more
      else if c = '\x7d' then .error (.badValue s!"Single '{c}' encountered in format string")
      else do
        let (slot, rest) ← takeSlot (next :: rest)
        let v ← lookup args slot.path
        let v ← converted v slot.conversion
        let spec ← if slot.nested then fillFrom args n depth slot.spec else .ok slot.spec
        let shown ← laidOut v spec
        let more ← fillFrom args n (depth + 1) rest
        return before ++ shown ++ more

/-- A template with the arguments filled in. -/
def fill (args : List (String × Document)) (template : String) : Except Fault String :=
  let cs := template.toList
  (fillFrom args (cs.length + 1) 2 cs).map String.ofList

end Parley.Template
