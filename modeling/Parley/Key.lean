/-
Values as keys.

Values of different kinds may stand for the same key: a truth value and a double
count as the whole number that they equal, also inside a tuple.  What is not a
number and most foreign values equal nothing, not even themselves when they come
a second time; they are keys that cannot be found again.  Lists, dictionaries
and records whose fields can be changed are no keys.
-/
import Parley.Fault

namespace Parley

namespace Number

/-- The whole number that a double is, if it is one. -/
def whole? (x : Float) : Option Int :=
  if x.isNaN || x.isInf || x.floor != x then none
  else
    let b := Binary.ofFloat x
    let size : Nat := b.mantissa * powerOn 2 b.exponent / powerOn 2 (-b.exponent)
    some (if signBit x then -size else size)

end Number

/-- A key: the number that a value counts as, the literal of another value that can be found again,
or a value that cannot. -/
inductive Key where
  | number (n : Int)
  | other (text : String)
  | lone
  deriving DecidableEq, Repr, Inhabited

namespace Key

mutual

/-- Data with everything that counts as a whole number written as one; `none` for data that holds
something that equals nothing. -/
def normal? : Document → Option Document
  | .null => some .null
  | .bool b => some (.int (if b then 1 else 0))
  | .int n => some (.int n)
  | .float x =>
    if x.isNaN then none
    else
      match Number.whole? x with
      | some n => some (.int n)
      | none => some (.float x)
  | .str s => some (.str s)
  | .bytes b => some (.bytes b)
  | .list items => (normalItems? items).map .list
  | .tuple items => (normalItems? items).map .tuple
  | .obj _ => none
  | .leaf (.record kind _ _ shown) => some (.tuple [.str kind, shown])
  | .leaf _ => none

/-- The items with everything that counts as a whole number written as one. -/
def normalItems? : List Document → Option (List Document)
  | [] => some []
  | v :: rest => do
    let v ← normal? v
    let rest ← normalItems? rest
    return v :: rest

end

mutual

/-- The first part of a value that keeps it from being a key. -/
def obstacle? : Document → Option Document
  | .list items => some (.list items)
  | .obj entries => some (.obj entries)
  | .tuple items => obstacleIn? items
  | .leaf (.record kind text fields shown) =>
    if ["Role", "FinishReason", "ChatToolMode"].contains kind then none
    else some (.leaf (.record kind text fields shown))
  | _ => none

/-- The first part of any item that keeps it from being a key. -/
def obstacleIn? : List Document → Option Document
  | [] => none
  | v :: rest => (obstacle? v).or (obstacleIn? rest)

end

/-- The key that a value is. -/
def ofValue (v : Document) : Except Fault Key :=
  match obstacle? v with
  | some part => .error (.wrongKind s!"unhashable type: '{part.kindName Opaque.kind}'")
  | none =>
    match normal? v with
    | some (.int n) => .ok (.number n)
    | some v => .ok (.other v.literal)
    | none => .ok .lone

/-- Whether two keys are the same: a key that cannot be found again is the same as none. -/
def same (a b : Key) : Bool :=
  a == b && a != .lone

end Key

end Parley
