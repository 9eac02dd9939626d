/-
How a value is laid out in a template.

A specification is a short text: a fill character and a side to align to, a sign,
a width, a mark between groups of digits, a precision and a code for the form of
the value.  `Spec.read` takes such a text apart, and `Spec.text`, `Spec.whole` and
`Spec.real` lay out a text, a whole number and a double by it.
-/
import Parley.Fault
import Parley.Number.Rounded

namespace Parley.Template

/-- Where a value stands in its field; `inside` puts the filling behind the sign. -/
inductive Align where
  | left
  | right
  | center
  | inside
  deriving DecidableEq, Repr, Inhabited

/-- The side that a character stands for. -/
def Align.of? : Char → Option Align
  | '<' => some .left
  | '>' => some .right
  | '^' => some .center
  | '=' => some .inside
  | _ => none

/-- A specification. -/
structure Spec where
  fill : Char := ' '
  align : Align
  sign : Option Char := none
  /-- Whether a zero never has a minus sign. -/
  plainZero : Bool := false
  alternate : Bool := false
  width : Option Nat := none
  /-- The mark between groups of digits. -/
  mark : Option Char := none
  precision : Option Nat := none
  code : Option Char := none
  deriving Inhabited

/-- A character in a complaint. -/
def shownChar (c : Char) (least : Nat) : String :=
  if 32 < c.toNat ∧ c.toNat < least then c.toString
  else "\\x" ++ String.ofList (Nat.toDigits 16 c.toNat)

/-- The complaint about a number in a template that is out of range. -/
def tooManyDigits : Fault := .badValue "Too many decimal digits in format string"

/-- The number that decimal digits spell, if it fits a word. -/
def numberOf (ds : List Nat) : Except Fault Nat :=
  let n := Number.ofDigits ds
  if n > 9223372036854775807 then .error tooManyDigits else .ok n

/-- Leading decimal digits, and the rest. -/
def takeDigits : List Char → List Nat × List Char
  | [] => ([], [])
  | c :: rest =>
    match Text.digitValue? c with
    | some d => let (ds, more) := takeDigits rest; (d :: ds, more)
    | none => ([], c :: rest)

/-- A leading number, if there is one, and the rest. -/
def takeNumber (cs : List Char) : Except Fault (Option Nat × List Char) :=
  match takeDigits cs with
  | ([], rest) => .ok (none, rest)
  | (ds, rest) => (numberOf ds).map fun n => (some n, rest)

/-- A leading character out of some, if it is there, and the rest. -/
def takeOne (allowed : List Char) : List Char → Option Char × List Char
  | c :: rest => if allowed.contains c then (some c, rest) else (none, c :: rest)
  | [] => (none, [])

namespace Spec

/-- The fill character and the side, if they are given, and the rest. -/
def takeAlign (cs : List Char) : Option Char × Option Align × List Char :=
  match cs with
  | fill :: side :: rest =>
    match Align.of? side, Align.of? fill with
    | some a, _ => (some fill, some a, rest)
    | none, some a => (none, some a, side :: rest)
    | none, none => (none, none, cs)
  | [side] =>
    match Align.of? side with
    | some a => (none, some a, [])
    | none => (none, none, cs)
  | [] => (none, none, [])

/-- The mark between groups of digits, and the rest. -/
def takeMark (cs : List Char) : Except Fault (Option Char × List Char) :=
  let both : Fault := .badValue "Cannot specify both ',' and '_'."
  match cs with
  | ',' :: '_' :: _ => .error both
  | '_' :: ',' :: _ => .error both
  | ',' :: rest => .ok (some ',', rest)
  | '_' :: rest => .ok (some '_', rest)
  | cs => .ok (none, cs)

/-- The precision, and the rest. -/
def takePrecision (cs : List Char) : Except Fault (Option Nat × List Char) :=
  match cs with
  | '.' :: rest => do
    match ← takeNumber rest with
    | (some n, rest) => return (some n, rest)
    | (none, _) => .error (.badValue "Format specifier missing precision")
  | cs => .ok (none, cs)

/-- Whether a mark between groups goes with a code. -/
def allowsMark (mark : Char) (code : Option Char) : Bool :=
  match code with
  | none => true
  | some c => "deEfFgG%".toList.contains c || (mark = '_' && "boxX".toList.contains c)

/-- A specification for a value of the named kind, which has a code and a side of its own. -/
def read (kind : String) (code : Option Char) (side : Align) (cs : List Char) :
    Except Fault Spec := do
  let (fill, align, rest) := takeAlign cs
  let (sign, rest) := takeOne [' ', '+', '-'] rest
  let (plainZero, rest) := takeOne ['z'] rest
  let (alternate, rest) := takeOne ['#'] rest
  let (zero, rest) := if fill.isNone then takeOne ['0'] rest else (none, rest)
  let (width, rest) ← takeNumber rest
  let (mark, rest) ← takeMark rest
  let (precision, rest) ← takePrecision rest
  let own ← match rest with
    | [] => .ok code
    | [c] => .ok (some c)
    | _ =>
      .error (.badValue s!"Invalid format specifier '{String.ofList cs}' for object of type '{kind}'")
  if let some m := mark then
    if !allowsMark m own then
      let shown := (own.map fun c => shownChar c 128).getD ""
      .error (.badValue s!"Cannot specify '{m}' with '{shown}'.")
  return {
    fill := fill.getD (zero.getD ' ')
    align := align.getD (if zero.isSome && side == .right then .inside else side)
    sign, plainZero := plainZero.isSome, alternate := alternate.isSome
    width, mark, precision, code := own }

/-- The complaint about a code that a kind of value has no form for. -/
def unknownCode (kind : String) (c : Char) : Fault :=
  .badValue s!"Unknown format code '{shownChar c 128}' for object of type '{kind}'"

/-! ### Texts -/

/-- A text in its field. -/
def pad (s : Spec) (cs : List Char) : List Char :=
  let total := s.width.getD 0 - cs.length
  let before := match s.align with
    | .right => total
    | .center => total / 2
    | _ => 0
  List.replicate before s.fill ++ cs ++ List.replicate (total - before) s.fill

/-- What a specification asks for that a text cannot have. -/
def textFlaw? (s : Spec) : Option String :=
  match s.sign with
  | some ' ' => some "Space not allowed in string format specifier"
  | some _ => some "Sign not allowed in string format specifier"
  | none =>
    if s.plainZero then some "Negative zero coercion (z) not allowed in string format specifier"
    else if s.alternate then some "Alternate form (#) not allowed in string format specifier"
    else if s.align == .inside then some "'=' alignment not allowed in string format specifier"
    else none

/-- Lay out a text. -/
def text (spec : List Char) (cs : List Char) : Except Fault (List Char) := do
  if spec.isEmpty then return cs
  let s ← read "str" (some 's') .left spec
  match s.code with
  | some 's' =>
    match textFlaw? s with
    | some flaw => .error (.badValue flaw)
    | none => return s.pad (match s.precision with | some n => cs.take n | none => cs)
  | some c => .error (unknownCode "str" c)
  | none => return cs

/-! ### Numbers -/

/-- Digits, the last one first, with a mark after each group of `size`. -/
def separate (mark : Char) (size : Nat) : Nat → List Char → List Char
  | _, [] => []
  | used, c :: rest =>
    if used = size then mark :: c :: separate mark size 1 rest
    else c :: separate mark size (used + 1) rest

/-- Digits in groups, with zeros in front of them until there are `least` characters. -/
def group (mark : Option Char) (size least : Nat) (ds : List Char) : List Char :=
  match mark with
  | none => List.replicate (least - ds.length) '0' ++ ds
  | some m =>
    let count := least - (least - 1) / (size + 1)
    let ds := List.replicate (count - ds.length) '0' ++ ds
    (separate m size 0 ds.reverse).reverse

/-- A number in its field: its sign, what stands in front of its digits, the digits before the
point and all that follows. -/
def number (s : Spec) (negative : Bool) (lead digits rest : List Char) (size : Nat := 3) :
    List Char :=
  let sign : List Char :=
    if negative then ['-']
    else match s.sign with
      | some '+' => ['+']
      | some ' ' => [' ']
      | _ => []
  let width := s.width.getD 0
  let others := sign.length + lead.length + rest.length
  let least := if s.fill = '0' && s.align == .inside then width - others else 0
  let digits := if digits.isEmpty then [] else group s.mark size least digits
  let padding := width - (others + digits.length)
  let filled (n : Nat) : List Char := List.replicate n s.fill
  match s.align with
  | .left => sign ++ lead ++ digits ++ rest ++ filled padding
  | .right => filled padding ++ sign ++ lead ++ digits ++ rest
  | .inside => sign ++ lead ++ filled padding ++ digits ++ rest
  | .center =>
    filled (padding / 2) ++ sign ++ lead ++ digits ++ rest ++ filled (padding - padding / 2)

/-- The text of a double without its sign, by the code for its form. -/
def unsigned (s : Spec) (code : Option Char) (x : Float) : List Char :=
  if x.isNaN then "nan".toList
  else if x.isInf then "inf".toList
  else
    let v := Number.Binary.ofFloat x
    let places := s.precision.getD 6
    match code with
    | some 'e' => v.exponential s.alternate places
    | some 'f' => v.fixed s.alternate places
    | some _ => v.general s.alternate false places
    | none =>
      match s.precision with
      | some n => v.general s.alternate true n
      | none => v.plain s.alternate

/-- Lay out a double by a specification that has been read. -/
def double (s : Spec) (kind : String) (x : Float) : Except Fault (List Char) :=
  let finish (code : Option Char) (upper : Bool) (x : Float) (after : List Char) : List Char :=
    let body := s.unsigned code x
    let zero := body.all fun c => !('1' ≤ c && c ≤ '9') && c != 'i' && c != 'n'
    let negative := Number.signBit x && !x.isNaN && !(s.plainZero && zero)
    let body := if upper then body.map Char.toUpper else body
    let isDigit (c : Char) : Bool := '0' ≤ c && c ≤ '9'
    s.number negative [] (body.takeWhile isDigit) (body.dropWhile isDigit ++ after)
  if s.precision.any (· > 2147483647) then .error (.badValue "precision too big")
  else
    match s.code with
    | none => .ok (finish none false x [])
    | some '%' => .ok (finish (some 'f') false (x * 100) ['%'])
    | some 'n' => .ok (finish (some 'g') false x [])
    | some c =>
      if "efg".toList.contains c then .ok (finish (some c) false x [])
      else if "EFG".toList.contains c then .ok (finish (some c.toLower) true x [])
      else .error (unknownCode kind c)

/-- Lay out a double. -/
def real (spec : List Char) (x : Float) : Except Fault (List Char) := do
  let s ← read "float" none .right spec
  s.double "float" x

/-- The character of a number. -/
def character (s : Spec) (n : Int) : Except Fault (List Char) :=
  if s.sign.isSome then .error (.badValue "Sign not allowed with integer format specifier 'c'")
  else if s.alternate then
    .error (.badValue "Alternate form (#) not allowed with integer format specifier 'c'")
  else if n < -9223372036854775808 ∨ n > 9223372036854775807 then
    .error (.overflow "Python int too large to convert to C long")
  else if n < 0 ∨ n > 0x10ffff then .error (.overflow "%c arg not in range(0x110000)")
  else
    let unit := n.toNat
    .ok (s.number false [] [] [if Text.isHalf unit then Text.half unit else Char.ofNat unit])

/-- Lay out a whole number of the named kind. -/
def whole (kind : String) (spec : List Char) (n : Int) : Except Fault (List Char) := do
  let s ← read kind (some 'd') .right spec
  let code := s.code.getD 'd'
  let inBase (base size : Nat) (lead : String) (upper : Bool) : List Char :=
    let digits := Nat.toDigits base n.natAbs
    let lead := if s.alternate then lead.toList else []
    let (lead, digits) :=
      if upper then (lead.map Char.toUpper, digits.map Char.toUpper) else (lead, digits)
    s.number (n < 0) lead digits [] size
  if "eEfFgG%".toList.contains code then
    match Number.ofInt? n with
    | some x => s.double kind x
    | none => .error (.overflow "int too large to convert to float")
  else if !("bcdoxXn".toList.contains code) then .error (unknownCode kind code)
  else if s.precision.isSome then
    .error (.badValue "Precision not allowed in integer format specifier")
  else if s.plainZero then
    .error (.badValue "Negative zero coercion (z) not allowed in integer format specifier")
  else
    match code with
    | 'c' => s.character n
    | 'b' => return inBase 2 4 "0b" false
    | 'o' => return inBase 8 4 "0o" false
    | 'x' => return inBase 16 4 "0x" false
    | 'X' => return inBase 16 4 "0x" true
    | _ => return inBase 10 3 "" false

end Spec

end Parley.Template
