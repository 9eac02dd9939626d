/-
Data without records.

A function is called with plain data: a record among its arguments becomes the
dictionary of its fields, those that hold nothing left out.  A default is shown in
a schema only if it can be written as JSON, where bytes become the text that they
spell and numbers that are not finite become nothing.
-/
import Parley.Value
import Parley.Text.Encoding

namespace Parley.Value

/-! ### Records -/

mutual

/-- Data with each record replaced by the dictionary of its fields; fields that hold nothing are
kept or left out. -/
def unfold (keepNull : Bool) : Document → Document
  | .null => .null
  | .bool b => .bool b
  | .int n => .int n
  | .float x => .float x
  | .str s => .str s
  | .bytes b => .bytes b
  | .list items => .list (unfoldItems keepNull items)
  | .tuple items => .tuple (unfoldItems keepNull items)
  | .obj entries => .obj (unfoldEntries keepNull true entries)
  | .leaf o => unfoldLeaf keepNull o
termination_by structural v => v

/-- A leaf, or the dictionary that a record becomes. -/
def unfoldLeaf (keepNull : Bool) : Opaque → Document
  | .foreign kind text => .leaf (.foreign kind text)
  | .fault kind text tells => .leaf (.fault kind text tells)
  | .record _ _ fields _ => .obj (unfoldEntries keepNull keepNull fields)
termination_by structural o => o

/-- The items with each record replaced. -/
def unfoldItems (keepNull : Bool) : List Document → List Document
  | [] => []
  | v :: rest => unfold keepNull v :: unfoldItems keepNull rest
termination_by structural items => items

/-- The entries with each record replaced; `keepHere` says whether those that hold nothing stay. -/
def unfoldEntries (keepNull keepHere : Bool) : List (String × Document) → List (String × Document)
  | [] => []
  | (k, v) :: rest =>
    if v.isNull && !keepHere then unfoldEntries keepNull keepHere rest
    else (k, unfold keepNull v) :: unfoldEntries keepNull keepHere rest
termination_by structural entries => entries

end

/-! ### JSON -/

mutual

/-- Data as it is written inside JSON, if it can be. -/
def inJson? : Document → Option Document
  | .null => some .null
  | .bool b => some (.bool b)
  | .int n => some (.int n)
  | .float x => some (if x.isNaN || x.isInf then .null else .float x)
  | .str s => some (.str s)
  | .bytes b =>
    match Text.Encoding.utf8.decode .refuse b with
    | .ok cs => some (.str (String.ofList cs))
    | .error _ => none
  | .list items => (itemsInJson? items).map .list
  | .tuple items => (itemsInJson? items).map .list
  | .obj entries => (entriesInJson? entries).map .obj
  | .leaf _ => none

/-- The items as they are written inside JSON, if all of them can be. -/
def itemsInJson? : List Document → Option (List Document)
  | [] => some []
  | v :: rest => do
    let v ← inJson? v
    let rest ← itemsInJson? rest
    return v :: rest

/-- The entries as they are written inside JSON, if all of them can be. -/
def entriesInJson? : List (String × Document) → Option (List (String × Document))
  | [] => some []
  | (k, v) :: rest => do
    let v ← inJson? v
    let rest ← entriesInJson? rest
    return (k, v) :: rest

end

/-- A default as it is shown in a schema, if it can be. -/
def asDefault? (v : Document) : Option Document :=
  match v with
  | .float x => some (.float x)
  | v => inJson? (unfold true v)

end Parley.Value
