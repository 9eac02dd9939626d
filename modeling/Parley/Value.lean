/-
Loosely typed data.

Requests, replies, tool arguments and settings all travel as trees of the same
few shapes: the JSON ones, bytes, tuples, and a leaf for whatever else a caller
hands over.  `Value α` is that tree, with `α` the type of the foreign leaves.
The entries of an `obj` keep the order in which their keys were first written,
because that order is what a printed request shows.
-/

namespace Parley

/-- A tree of loosely typed data whose foreign leaves have type `α`. -/
inductive Value (α : Type) where
  | null
  | bool (b : Bool)
  | int (n : Int)
  | float (x : Float)
  | str (s : String)
  | bytes (b : List UInt8)
  | list (items : List (Value α))
  | tuple (items : List (Value α))
  | obj (entries : List (String × Value α))
  | leaf (a : α)
  deriving Inhabited

/-- A foreign leaf.  The name of its kind and its text are known; of a fault also what it tells,
and of a record its fields and the form in which it is shown. -/
inductive Opaque where
  | foreign (kind text : String)
  | fault (kind text : String) (tells : List (String × Value Opaque))
  | record (kind text : String) (fields : List (String × Value Opaque)) (shown : Value Opaque)
  deriving Inhabited

namespace Opaque

/-- The name of the kind of a leaf. -/
def kind : Opaque → String
  | .foreign kind _ => kind
  | .fault kind _ _ => kind
  | .record kind _ _ _ => kind

/-- The text of a leaf. -/
def text : Opaque → String
  | .foreign _ text => text
  | .fault _ text _ => text
  | .record _ text _ _ => text

end Opaque

/-- Data that has left its caller: every foreign leaf is opaque. -/
abbrev Document := Value Opaque

/-! ### Entries

A dictionary is a list of pairs with the key first.  Writing an existing key
keeps its place.
-/

namespace Entries

variable {β : Type}

/-- The value written under a key, if there is one. -/
def get? (entries : List (String × β)) (key : String) : Option β :=
  (entries.find? fun e => e.1 == key).map Prod.snd

/-- Whether a key is present. -/
def has (entries : List (String × β)) (key : String) : Bool :=
  entries.any fun e => e.1 == key

/-- Write a key: in place if it is present, at the end otherwise. -/
def put (entries : List (String × β)) (key : String) (v : β) : List (String × β) :=
  match entries with
  | [] => [(key, v)]
  | e :: rest => if e.1 == key then (key, v) :: rest else e :: put rest key v

/-- Write every entry of the second list over the first. -/
def union (under top : List (String × β)) : List (String × β) :=
  top.foldl (fun acc e => put acc e.1 e.2) under

/-- The entries under all other keys. -/
def drop (entries : List (String × β)) (key : String) : List (String × β) :=
  entries.filter fun e => e.1 != key

/-- Entries in which the last of several equal keys holds. -/
def ofPairs (pairs : List (String × β)) : List (String × β) :=
  union [] pairs

end Entries

namespace Value

variable {α β : Type}

/-! ### Reading a value -/

/-- The name of the kind of a value, with the kind of a foreign leaf given by `kind`. -/
def kindName (kind : α → String) : Value α → String
  | .null => "NoneType"
  | .bool _ => "bool"
  | .int _ => "int"
  | .float _ => "float"
  | .str _ => "str"
  | .bytes _ => "bytes"
  | .list _ => "list"
  | .tuple _ => "tuple"
  | .obj _ => "dict"
  | .leaf a => kind a

/-- Whether a value counts as set: nothing, zero and the empty are not. -/
def isSet : Value α → Bool
  | .null => false
  | .bool b => b
  | .int n => n != 0
  | .float x => x != 0
  | .str s => s != ""
  | .bytes b => !b.isEmpty
  | .list items => !items.isEmpty
  | .tuple items => !items.isEmpty
  | .obj entries => !entries.isEmpty
  | .leaf _ => true

/-- Whether a value is the absent one. -/
def isNull : Value α → Bool
  | .null => true
  | _ => false

/-- The text that a value is. -/
def asString? : Value α → Option String
  | .str s => some s
  | _ => none

/-- The entries of a value that has them. -/
def asEntries? : Value α → Option (List (String × Value α))
  | .obj entries => some entries
  | _ => none

/-- The entry of a dictionary under a key; `none` for every other value. -/
def get? (v : Value α) (key : String) : Option (Value α) :=
  match v with
  | .obj entries => Entries.get? entries key
  | _ => none

/-! ### Changing the foreign leaves -/

mutual

/-- The same tree with each foreign leaf replaced by the tree `f` makes of it. -/
def bind (f : α → Value β) : Value α → Value β
  | .null => .null
  | .bool b => .bool b
  | .int n => .int n
  | .float x => .float x
  | .str s => .str s
  | .bytes b => .bytes b
  | .list items => .list (bindItems f items)
  | .tuple items => .tuple (bindItems f items)
  | .obj entries => .obj (bindEntries f entries)
  | .leaf a => f a

/-- The same items with each foreign leaf replaced. -/
def bindItems (f : α → Value β) : List (Value α) → List (Value β)
  | [] => []
  | v :: rest => bind f v :: bindItems f rest

/-- The same entries with each foreign leaf replaced. -/
def bindEntries (f : α → Value β) : List (String × Value α) → List (String × Value β)
  | [] => []
  | (k, v) :: rest => (k, bind f v) :: bindEntries f rest

end

/-- The same tree with each foreign leaf replaced. -/
def map (f : α → β) (v : Value α) : Value β :=
  v.bind fun a => .leaf (f a)

end Value

end Parley
