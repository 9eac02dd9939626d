/-
Numbers with a chosen count of digits.

A double is rounded exactly, ties to even: to a count of decimal places or to a
count of significant digits.  `Places` says how the digits are then laid out, with
a point that may be kept where nothing follows it, and with or without exponent.
-/
import Parley.Number.Shortest

namespace Parley.Number

/-- The whole number nearest to `n / d`, ties to even. -/
def nearest (n d : Nat) : Nat :=
  let q := n / d
  let twice := 2 * (n % d)
  if twice < d then q
  else if twice > d then q + 1
  else if q % 2 = 0 then q
  else q + 1

/-- The whole number nearest to `v * 10 ^ e`, ties to even. -/
def Binary.scaled (v : Binary) (e : Int) : Nat :=
  nearest (v.mantissa * powerOn 2 v.exponent * powerOn 10 e)
    (powerOn 2 (-v.exponent) * powerOn 10 (-e))

/-- So many significant digits of a value, and the count of them before the point. -/
def Binary.significant (v : Binary) (count : Nat) : List Char × Int :=
  if v.mantissa = 0 then (List.replicate count '0', 1)
  else
    let point := v.point
    let n := v.scaled ((count : Int) - point)
    if n = Nat.pow 10 count then (Nat.toDigits 10 (Nat.pow 10 (count - 1)), point + 1)
    else (Nat.toDigits 10 n, point)

/-- The shortest digits of a value, and the count of them before the point. -/
def Binary.shortestDigits (v : Binary) : List Char × Int :=
  if v.mantissa = 0 then (['0'], 1)
  else
    let d := v.shortest
    let ds := Nat.toDigits 10 d.digits
    (ds, (ds.length : Int) + d.exponent)

/-- Digits without the zeros at their end; one digit is left. -/
def dropZeros (ds : List Char) : List Char :=
  match (ds.reverse.dropWhile (· == '0')).reverse with
  | [] => ds.take 1
  | kept => kept

/-- A point and the digits behind it; without digits there is a point only if it is kept. -/
def fraction (keepPoint : Bool) (part : List Char) : List Char :=
  if part.isEmpty && !keepPoint then [] else '.' :: part

/-- The exponent of ten, with a sign and at least two digits. -/
def exponentMark (e : Int) : List Char :=
  let size := Nat.toDigits 10 e.natAbs
  'e' :: (if e < 0 then '-' else '+') :: (if size.length < 2 then '0' :: size else size)

/-- Digits with one of them before the point, and the exponent. -/
def scientific (keepPoint : Bool) (ds : List Char) (point : Int) : List Char :=
  ds.take 1 ++ fraction keepPoint (ds.drop 1) ++ exponentMark (point - 1)

/-- Digits with the point after so many of them.  With `full`, a zero stands behind the point where
nothing else does. -/
def positional (keepPoint full : Bool) (ds : List Char) (point : Int) : List Char :=
  if point ≤ 0 then '0' :: '.' :: (List.replicate (-point).toNat '0' ++ ds)
  else
    let p := point.toNat
    let part := ds.drop p
    ds.take p ++ List.replicate (p - ds.length) '0'
      ++ fraction keepPoint (if part.isEmpty && full then ['0'] else part)

/-- A value with so many decimal places. -/
def Binary.fixed (v : Binary) (keepPoint : Bool) (places : Nat) : List Char :=
  let ds := Nat.toDigits 10 (v.scaled places)
  let ds := List.replicate (places + 1 - ds.length) '0' ++ ds
  ds.take (ds.length - places) ++ fraction keepPoint (ds.drop (ds.length - places))

/-- A value with so many digits behind the point and an exponent. -/
def Binary.exponential (v : Binary) (keepPoint : Bool) (places : Nat) : List Char :=
  let (ds, point) := v.significant (places + 1)
  scientific keepPoint ds point

/-- A value with so many significant digits, those at the end dropped that are zeros unless the
point is kept.  Values that are far from one have an exponent. -/
def Binary.general (v : Binary) (keepPoint full : Bool) (digits : Nat) : List Char :=
  let count := max digits 1
  let (ds, point) := v.significant count
  let ds := if keepPoint then ds else dropZeros ds
  if point ≤ -4 || point > (count : Int) - (if full then 1 else 0) then scientific keepPoint ds point
  else positional keepPoint full ds point

/-- A value with its shortest digits. -/
def Binary.plain (v : Binary) (keepPoint : Bool) : List Char :=
  let (ds, point) := v.shortestDigits
  let ds := dropZeros ds
  if point ≤ -4 || point > 16 then scientific keepPoint ds point
  else positional keepPoint true ds point

end Parley.Number
