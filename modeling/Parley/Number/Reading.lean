/-
Numbers read from text.

Settings come as text that people typed, so the readers here are generous:
blanks around the number, a sign, a single underscore between two digits, and
the decimal digits of every script.  A whole number may have at most
`digitLimit` digits, which keeps reading it cheap.
-/
import Parley.Text.Class

namespace Parley.Number

/-- The most digits that a whole number in a text may have. -/
def digitLimit : Nat := 4300

/-- The complaint about a whole number that is too long. -/
def tooManyDigits (count : Nat) : String :=
  s!"Exceeds the limit ({digitLimit} digits) for integer string conversion: value has {count} " ++
    "digits; use sys.set_int_max_str_digits() to increase the limit"

/-- The complaint about a whole number that is too long to be written. -/
def tooLong : String :=
  s!"Exceeds the limit ({digitLimit} digits) for integer string conversion; " ++
    "use sys.set_int_max_str_digits() to increase the limit"

/-- Whether a whole number is too long to be written. -/
def isTooLong (n : Int) : Bool :=
  n.natAbs ≥ Nat.pow 10 digitLimit

/-- The number that decimal digits spell. -/
def ofDigits (ds : List Nat) : Nat :=
  ds.foldl (fun n d => 10 * n + d) 0

/-- The infinite double. -/
def infinity : Float := 1.0 / 0.0

/-- The double that is not a number. -/
def notANumber : Float := 0.0 / 0.0

/-- The double nearest to `digits * 10 ^ e`. -/
def ofDecimal (digits : Nat) (e : Int) : Float :=
  let top := (Nat.toDigits 10 digits).length + e
  if digits = 0 then 0.0
  else if top > 400 then infinity
  else if top < -400 then 0.0
  else Float.ofScientific digits (decide (e < 0)) e.natAbs

/-- The double nearest to a whole number, if it is in range. -/
def ofInt? (n : Int) : Option Float :=
  let size := ofDecimal n.natAbs 0
  if size.isInf then none else some (if n < 0 then -size else size)

/-! ### Margins -/

/-- Whether a character may stand around a number: a blank, unless it separates records. -/
def isMargin (c : Char) : Bool :=
  Text.isBlank c && !(0x1C ≤ c.toNat && c.toNat ≤ 0x1F)

/-- The characters without the margin at either end. -/
def trimMargin (cs : List Char) : List Char :=
  ((cs.dropWhile isMargin).reverse.dropWhile isMargin).reverse

/-! ### Digits and underscores -/

/-- The longest run of digits, in which an underscore may stand between two, and the rest.
`none` when an underscore stands anywhere else. -/
def digitRun (afterDigit : Bool) : List Char → Option (List Nat × List Char)
  | [] => some ([], [])
  | c :: rest =>
    match Text.digitValue? c with
    | some d => (digitRun true rest).map fun (ds, more) => (d :: ds, more)
    | none =>
      if c = '_' then
        match afterDigit, rest with
        | true, next :: _ => if (Text.digitValue? next).isSome then digitRun false rest else none
        | _, _ => none
      else some ([], c :: rest)

/-- The sign in front of a number: whether it is negative, and the rest. -/
def takeSign : List Char → Bool × List Char
  | '-' :: rest => (true, rest)
  | '+' :: rest => (false, rest)
  | cs => (false, cs)

/-- Why a text is no whole number. -/
inductive IntFlaw where
  | malformed
  | tooLong (count : Nat)
  deriving DecidableEq, Repr

/-- The whole number that a text spells. -/
def readInt (s : String) : Except IntFlaw Int :=
  let (negative, body) := takeSign (trimMargin s.toList)
  match digitRun false body with
  | none => .error .malformed
  | some (ds, rest) =>
    if ds.length > digitLimit then .error (.tooLong ds.length)
    else if ds.isEmpty || !rest.isEmpty then .error .malformed
    else
      let n : Int := ofDigits ds
      .ok (if negative then -n else n)

/-! ### Decimal fractions -/

/-- The exponent after its mark: `none` if the text does not end with it. -/
def readExponent : List Char → Option Int
  | [] => some 0
  | mark :: rest =>
    if mark = 'e' ∨ mark = 'E' then
      let (negative, body) := takeSign rest
      match digitRun false body with
      | some (ds, []) =>
        if ds.isEmpty then none
        else
          let n : Int := ofDigits ds
          some (if negative then -n else n)
      | _ => none
    else none

/-- The size that an unsigned decimal text spells. -/
def readSize (cs : List Char) : Option Float := do
  let (whole, rest) ← digitRun false cs
  let (part, rest) ← match rest with
    | '.' :: more => digitRun false more
    | _ => some ([], rest)
  if whole.isEmpty && part.isEmpty then none
  else
    let e ← readExponent rest
    some (ofDecimal (ofDigits (whole ++ part)) (e - part.length))

/-- The double that a text spells, infinities and what is not a number included. -/
def readFloat (s : String) : Option Float := do
  let (negative, body) := takeSign (trimMargin s.toList)
  let word := String.ofList (body.map Char.toLower)
  let size ←
    if word == "inf" || word == "infinity" then some infinity
    else if word == "nan" then some notANumber
    else readSize body
  some (if negative then -size else size)

end Parley.Number
