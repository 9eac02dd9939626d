/-
Limits on the value of a parameter.

Some limits belong to a type and are checked together with it: bounds of a
number, the length of a text.  A limit that a type does not know is applied to the
value afterwards, by comparing it, taking its length or matching it, which is a
fault when the value does not support that.
-/
import Parley.Check
import Parley.Key
import Parley.Number.Power
import Parley.Text.Pattern.Reader

namespace Parley

namespace Number

/-- A double between whole numbers: the greatest one that is not above it, and whether it is that
one; `none` for what is not finite. -/
def split? (x : Float) : Option (Int × Bool) :=
  (whole? x.floor).map fun n => (n, x.floor == x)

/-- How a whole number compares with a double; `none` for what is not a number. -/
def orderWith? (n : Int) (x : Float) : Option Ordering :=
  if x.isNaN then none
  else
    match split? x with
    | none => some (if x < 0 then .gt else .lt)
    | some (m, isWhole) => some (if n = m ∧ isWhole then .eq else if n ≤ m then .lt else .gt)

/-- How two doubles compare. -/
def orderReal? (x y : Float) : Option Ordering :=
  if x < y then some .lt else if x == y then some .eq else if y < x then some .gt else none

/-- The remainder of a division, with the sign of the number that is divided. -/
def remainder (x m : Float) : Float :=
  if x.isNaN || x.isInf || m.isNaN || m == 0 then notANumber
  else if m.isInf then x
  else
    let a := Binary.ofFloat x
    let b := Binary.ofFloat m
    let e := min a.exponent b.exponent
    let rest := a.mantissa * powerOn 2 (a.exponent - e) % (b.mantissa * powerOn 2 (b.exponent - e))
    let size := ofFraction rest 1 e
    if signBit x then -size else size

end Number

/-- The names of limits, in the order in which one note applies them. -/
inductive LimitName where
  | strict
  | above
  | atLeast
  | below
  | atMost
  | multipleOf
  | minLength
  | maxLength
  | failFast
  | pattern
  | numbersAsText
  | infinite
  | maxDigits
  | decimalPlaces
  | unionMode
  deriving DecidableEq, Repr, Inhabited

namespace LimitName

/-- Every name. -/
def all : List LimitName :=
  [.strict, .above, .atLeast, .below, .atMost, .multipleOf, .minLength, .maxLength, .failFast,
    .pattern, .numbersAsText, .infinite, .maxDigits, .decimalPlaces, .unionMode]

/-- The word for a limit in a note. -/
def word : LimitName → String
  | .strict => "strict"
  | .above => "gt"
  | .atLeast => "ge"
  | .below => "lt"
  | .atMost => "le"
  | .multipleOf => "multiple_of"
  | .minLength => "min_length"
  | .maxLength => "max_length"
  | .failFast => "fail_fast"
  | .pattern => "pattern"
  | .numbersAsText => "coerce_numbers_to_str"
  | .infinite => "allow_inf_nan"
  | .maxDigits => "max_digits"
  | .decimalPlaces => "decimal_places"
  | .unionMode => "union_mode"

/-- The types that know a limit. -/
def types : LimitName → List String
  | .strict => ["int", "float", "str", "bool", "dict", "list", "tuple"]
  | .above | .atLeast | .below | .atMost | .multipleOf | .infinite => ["int", "float"]
  | .minLength | .maxLength => ["str", "list", "dict", "tuple"]
  | .failFast => ["list", "tuple"]
  | .pattern | .numbersAsText => ["str"]
  | .unionMode => ["union"]
  | .maxDigits | .decimalPlaces => []

/-- The name of a bound in a schema. -/
def boundKey : LimitName → Option String
  | .above => some "exclusiveMinimum"
  | .atLeast => some "minimum"
  | .below => some "exclusiveMaximum"
  | .atMost => some "maximum"
  | .multipleOf => some "multipleOf"
  | _ => none

end LimitName

/-- A limit and the value it is set to. -/
structure Limit where
  name : LimitName
  value : Document
  deriving Inhabited

namespace Limit

/-- The value of a limit among limits. -/
def find? (limits : List Limit) (name : LimitName) : Option Document :=
  (limits.find? fun l => l.name == name).map value

/-- Set a limit among limits, in place of one of the same name. -/
def put (limits : List Limit) (l : Limit) : List Limit :=
  limits.filter (fun other => other.name != l.name) ++ [l]

/-- Whether a limit is switched on. -/
def isOn (limits : List Limit) (name : LimitName) : Bool :=
  ((find? limits name).map Value.isSet).getD false

/-! ### Values of limits -/

/-- The size that a value is, if it may be one. -/
def size? : Document → Option Nat
  | .int n => if 0 ≤ n ∧ n < 18446744073709551616 then some n.toNat else none
  | .bool b => some (if b then 1 else 0)
  | _ => none

/-- The double that a number is, if it is in range. -/
def real? : Document → Option Float
  | .int n => Number.ofInt? n
  | .bool b => some (if b then 1 else 0)
  | .float x => some x
  | _ => none

/-- The whole number that the bound of a whole number stands for. -/
def whole? (v : Document) : Option Int := (Check.int v).toOption

/-- The pattern that a value writes. -/
def pattern? (v : Document) : Option Text.Pattern := v.asString?.bind Text.Pattern.read?

/-- Whether a type can be set up with a limit. -/
def fits (type : String) (l : Limit) : Bool :=
  let isBool : Bool := l.value matches .bool _
  match l.name with
  | .strict | .failFast | .numbersAsText => isBool
  | .infinite => type == "int" || isBool
  | .above | .atLeast | .below | .atMost =>
    if type == "int" then (whole? l.value).isSome else (real? l.value).isSome
  | .multipleOf =>
    if type == "int" then (whole? l.value).any (0 < ·) else (real? l.value).any fun x => 0 < x
  | .minLength | .maxLength => (size? l.value).isSome
  | .pattern => (pattern? l.value).isSome
  | .unionMode => l.value.asString?.any ["smart", "left_to_right"].contains
  | .maxDigits | .decimalPlaces => true

/-- Whether a limit that is applied afterwards can be set up. -/
def fitsAfter (l : Limit) : Bool :=
  match l.name with
  | .pattern => (pattern? l.value).isSome
  | .numbersAsText => (l.value matches .bool _)
  | _ => true

/-! ### Checked with the type -/

/-- The rule that a whole number breaks, in the order in which its limits are checked. -/
def brokenByWhole? (limits : List Limit) (n : Int) : Option Violation :=
  let test (name : LimitName) (holds : Int → Bool) (v : Violation) : Option Violation :=
    ((find? limits name).bind whole?).bind fun bound => if holds bound then none else some v
  (test .multipleOf (fun m => n % m = 0) .multipleOf).or
    ((test .atMost (fun b => n ≤ b) .lessThanEqual).or
      ((test .below (fun b => n < b) .lessThan).or
        ((test .atLeast (fun b => b ≤ n) .greaterThanEqual).or
          (test .above (fun b => b < n) .greaterThan))))

/-- Whether a double is a multiple of another, give or take a billionth of it. -/
def isMultiple (x m : Float) : Bool :=
  let rest := (Number.remainder x m).abs
  let slack := x.abs / 1e9
  !(rest > slack && (rest - m).abs > slack)

/-- The rule that a double breaks, in the order in which its limits are checked. -/
def brokenByReal? (limits : List Limit) (x : Float) : Option Violation :=
  let test (name : LimitName) (holds : Float → Bool) (v : Violation) : Option Violation :=
    ((find? limits name).bind real?).bind fun bound => if holds bound then none else some v
  let finite : Option Violation :=
    match find? limits .infinite with
    | some (.bool false) => if x.isNaN || x.isInf then some .finiteNumber else none
    | _ => none
  finite.or
    ((test .multipleOf (fun m => isMultiple x m) .multipleOf).or
      ((test .atMost (fun b => x ≤ b) .lessThanEqual).or
        ((test .below (fun b => x < b) .lessThan).or
          ((test .atLeast (fun b => b ≤ x) .greaterThanEqual).or
            (test .above (fun b => b < x) .greaterThan)))))

/-- The rule about its length that something of a length breaks. -/
def brokenByLength? (limits : List Limit) (short long : Violation) (n : Nat) : Option Violation :=
  let least := ((find? limits .minLength).bind size?).getD 0
  let most := ((find? limits .maxLength).bind size?).getD n
  if n < least then some short else if most < n then some long else none

/-- The rule that a text breaks. -/
def brokenByText? (limits : List Limit) (s : String) : Option Violation :=
  (brokenByLength? limits .stringTooShort .stringTooLong s.length).or
    (((find? limits .pattern).bind pattern?).bind fun p =>
      if p.occurs s then none else some .stringPattern)

/-! ### Applied afterwards -/

/-- How two values compare, if they can be compared; `some none` for what is not a number. -/
def order? (a b : Document) : Option (Option Ordering) :=
  match number a, number b with
  | .int m, .int n => some (some (compare m n))
  | .int m, .float y => some (Number.orderWith? m y)
  | .float x, .int n => some ((Number.orderWith? n x).map Ordering.swap)
  | .float x, .float y => some (Number.orderReal? x y)
  | .str s, .str t => some (some (compare s t))
  | _, _ => none
where
  number : Document → Document
    | .bool b => .int (if b then 1 else 0)
    | v => v

/-- The length of a value that has one. -/
def length? : Document → Option Nat
  | .str s => some s.length
  | .bytes b => some b.length
  | .list items => some items.length
  | .tuple items => some items.length
  | .obj entries => some entries.length
  | _ => none

/-- Whether dividing a value leaves nothing. -/
def divides (m v : Document) : Except Fault (Option Bool) :=
  match order?.number v, order?.number m with
  | .int a, .int b => if b = 0 then .error .divisionByZero else .ok (some (a % b = 0))
  | .int a, .float y => real (Number.ofInt? a) (some y)
  | .float x, .int b => real (some x) (Number.ofInt? b)
  | .float x, .float y => real (some x) (some y)
  | _, _ => .ok none
where
  real (x y : Option Float) : Except Fault (Option Bool) :=
    match x, y with
    | some x, some y =>
      if y == 0 then .error .divisionByZero else .ok (some (Number.remainder x y == 0))
    | _, _ => .error (.overflow "int too large to convert to float")

/-- The fault of applying a limit to a value that does not support it. -/
def unsupported (l : Limit) (v : Document) : Fault :=
  .wrongKind s!"Unable to apply constraint '{l.name.word}' to supplied value {v.display}"

/-- A value that keeps a limit, or the rule that it breaks. -/
def kept (v : Document) (holds : Bool) (broken : Violation) : Checked Document :=
  if holds then .ok v else Checked.fail broken

/-- A value compared with a limit. -/
def compared (l : Limit) (v : Document) (holds : Ordering → Bool) (broken : Violation) :
    Except Fault (Checked Document) :=
  match order? v l.value with
  | some o => .ok (kept v (o.any holds) broken)
  | none => .error (l.unsupported v)

/-- The length of a value compared with a limit. -/
def measured (l : Limit) (v : Document) (holds : Ordering → Bool) (broken : Violation) :
    Except Fault (Checked Document) :=
  match (length? v).bind fun n => order? (.int n) l.value with
  | some o =>
    if o.any holds then .ok (.ok v)
    else if (size? l.value).isSome then .ok (Checked.fail broken)
    else .error (l.unsupported v)
  | none => .error (l.unsupported v)

/-- The text of a value that is read as one after it was checked. -/
def textOf (l : Limit) (v : Document) : Except Fault (Checked String) :=
  match v, l.name, l.value with
  | .int n, .numbersAsText, .bool true => .ok (.ok (toString n))
  | .float x, .numbersAsText, .bool true => .ok (.ok (Literal.floatText.render x))
  | v, _, _ =>
    match Check.text? .stringUnicode v with
    | some s => .ok s
    | none => .error (l.unsupported v)

/-- Apply a limit to a value that was checked before. -/
def after (l : Limit) (v : Document) : Except Fault (Checked Document) :=
  match l.name with
  | .above => l.compared v (· == .gt) .greaterThan
  | .atLeast => l.compared v (· != .lt) .greaterThanEqual
  | .below => l.compared v (· == .lt) .lessThan
  | .atMost => l.compared v (· != .gt) .lessThanEqual
  | .multipleOf => do
    match ← divides l.value v with
    | some holds => return kept v holds .multipleOf
    | none => .error (l.unsupported v)
  | .minLength => l.measured v (· != .lt) .tooShort
  | .maxLength => l.measured v (· != .gt) .tooLong
  | .pattern => do
    let s ← l.textOf v
    return s.bind fun s =>
      kept (.str s) (((pattern? l.value).map fun p => p.occurs s).getD true) .stringPattern
  | .numbersAsText => (l.textOf v).map fun s => s.map .str
  | .infinite =>
    match v with
    | .float x => .ok (kept v (!x.isNaN && !x.isInf) .finiteNumber)
    | .bool _ => .ok (.ok v)
    | .int n =>
      if (Number.ofInt? n).isSome then .ok (.ok v)
      else .error (.overflow "int too large to convert to float")
    | v => .error (l.unsupported v)
  | .maxDigits | .decimalPlaces =>
    .error (.noAttribute s!"'{v.kindName Opaque.kind}' object has no attribute 'as_tuple'")
  | _ => .ok (.ok v)

end Limit

end Parley
