/-
Reaching into data whose shape is not known.

Replies and events are read by key, and any part of them may turn out to be of
another kind than expected.  Each function here answers with the fault that
reaching into such a value is.
-/
import Parley.Fault
import Parley.Key
import Parley.Text.Split

namespace Parley.Value

/-- The fault of asking a value for entries that it cannot have. -/
def noEntries (v : Document) : Fault :=
  .noAttribute s!"'{v.kindName Opaque.kind}' object has no attribute 'get'"

/-- The entry of a dictionary under a key, or a default. -/
def lookup (v : Document) (key : String) (default : Document) : Except Fault Document :=
  match v with
  | .obj entries => .ok ((Entries.get? entries key).getD default)
  | v => .error (noEntries v)

/-- The entry of a dictionary under a key that has to be there. -/
def entry (v : Document) (key : String) : Except Fault Document :=
  match v with
  | .obj entries =>
    match Entries.get? entries key with
    | some v => .ok v
    | none => .error (.missingKey (.str key))
  | .str _ => .error (.wrongKind "string indices must be integers, not 'str'")
  | v => .error (.wrongKind s!"'{v.kindName Opaque.kind}' object is not subscriptable")

/-- Whether a word is a key, an item or a part of a value. -/
def contains (v : Document) (word : String) : Except Fault Bool :=
  let isWord : Document → Bool
    | .str s => s == word
    | _ => false
  match v with
  | .obj entries => .ok (Entries.has entries word)
  | .list items => .ok (items.any isWord)
  | .tuple items => .ok (items.any isWord)
  | .str s => .ok (Text.occursIn word.toList s.toList)
  | .bytes _ => .error (.wrongKind "a bytes-like object is required, not 'str'")
  | .leaf (.record _ _ _ _) => .ok false
  | v => .error (.wrongKind s!"argument of type '{v.kindName Opaque.kind}' is not iterable")

/-- The values that a value runs through. -/
def sequence (v : Document) : Except Fault (List Document) :=
  match v with
  | .list items => .ok items
  | .tuple items => .ok items
  | .obj entries => .ok (entries.map fun (k, _) => .str k)
  | .str s => .ok (s.toList.map fun c => .str c.toString)
  | .bytes b => .ok (b.map fun x => .int x.toNat)
  | .leaf (.record _ _ fields _) => .ok (fields.map fun (k, field) => .tuple [.str k, field])
  | v => .error (.wrongKind s!"'{v.kindName Opaque.kind}' object is not iterable")

/-- A text where one is needed. -/
def expectText (v : Document) : Except Fault String :=
  match v with
  | .str s => .ok s
  | v => .error (.wrongKind s!"expected str instance, {v.kindName Opaque.kind} found")

mutual

/-- Whether data holds a whole number that is too long to be written. -/
def holdsTooLong : Document → Bool
  | .int n => Number.isTooLong n
  | .list items => anyTooLong items
  | .tuple items => anyTooLong items
  | .obj entries => anyEntryTooLong entries
  | _ => false

/-- Whether any item holds a whole number that is too long. -/
def anyTooLong : List Document → Bool
  | [] => false
  | v :: rest => holdsTooLong v || anyTooLong rest

/-- Whether any entry holds a whole number that is too long. -/
def anyEntryTooLong : List (String × Document) → Bool
  | [] => false
  | (_, v) :: rest => holdsTooLong v || anyEntryTooLong rest

end

/-- Refuse data that cannot be written out. -/
def writable (v : Document) : Except Fault Unit :=
  if holdsTooLong v then .error (.badValue Number.tooLong) else .ok ()

/-- The sum of two values that can be added. -/
def plus (a b : Document) : Except Fault Document :=
  let whole? : Document → Option Int
    | .int n => some n
    | .bool b => some (if b then 1 else 0)
    | _ => none
  let refuse : Except Fault Document :=
    let kind (v : Document) : String := v.kindName Opaque.kind
    .error (.wrongKind s!"unsupported operand type(s) for +: '{kind a}' and '{kind b}'")
  let mixed (n : Int) (combine : Float → Float) : Except Fault Document :=
    match Number.ofInt? n with
    | some x => .ok (.float (combine x))
    | none => .error (.overflow "int too large to convert to float")
  match a, b with
  | .str a, .str b => .ok (.str (a ++ b))
  | .bytes a, .bytes b => .ok (.bytes (a ++ b))
  | .list a, .list b => .ok (.list (a ++ b))
  | .tuple a, .tuple b => .ok (.tuple (a ++ b))
  | .float x, .float y => .ok (.float (x + y))
  | .float x, b =>
    match whole? b with
    | some n => mixed n fun y => x + y
    | none => refuse
  | a, .float y =>
    match whole? a with
    | some n => mixed n fun x => x + y
    | none => refuse
  | a, b =>
    match whole? a, whole? b with
    | some m, some n => .ok (.int (m + n))
    | _, _ => refuse

/-- A pair at a position. -/
def pairAt (i : Nat) (v : Document) : Except Fault (Document × Document) :=
  match sequence v with
  | .error _ =>
    .error (.wrongKind s!"cannot convert dictionary update sequence element #{i} to a sequence")
  | .ok [k, v] => .ok (k, v)
  | .ok items =>
    .error (.badValue (s!"dictionary update sequence element #{i} has length {items.length}; " ++
      "2 is required"))

/-- Entries by key, with one more.  A key that is there already keeps its first form. -/
def putKey (entries : List (Key × Document × Document)) (key : Key) (k v : Document) :
    List (Key × Document × Document) :=
  match entries with
  | [] => [(key, k, v)]
  | (other, first, old) :: rest =>
    if other.same key then (other, first, v) :: rest
    else (other, first, old) :: putKey rest key k v

/-- Pairs read as entries, numbered from `i`, behind those read before. -/
def pairsFrom (i : Nat) (before : List (Key × Document × Document)) :
    List Document → Except Fault (List (Key × Document × Document))
  | [] => .ok before
  | pair :: rest => do
    let (k, v) ← pairAt i pair
    let key ← Key.ofValue k
    pairsFrom (i + 1) (putKey before key k v) rest

/-- The entries of a dictionary, or those that a sequence of pairs makes.  A key that is no text is
written as the text that `keyText` gives it. -/
def entriesOf (keyText : Document → String) (v : Document) :
    Except Fault (List (String × Document)) :=
  match v with
  | .obj entries => .ok entries
  | v => do
    let items ← sequence v
    let pairs ← pairsFrom 0 [] items
    return Entries.ofPairs (pairs.map fun (_, k, v) =>
      match k with
      | .str s => (s, v)
      | k => (keyText k, v))

end Parley.Value
