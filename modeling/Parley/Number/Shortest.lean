/-
The shortest decimal text of a double.

A double stands for every real that rounds to it.  Of the decimals in that
interval the ones with the fewest digits are kept, and of those the nearest to
the double.  `shortest` finds it by trying one digit, two digits and so on:
whenever some point of a decimal grid lies in the interval, one of the double's
two neighbours on that grid does.  `seventeen` digits always suffice.

`FloatText` holds the choices a format makes on top: from which exponent on the
text is scientific, and how infinities and what is not a number are spelled.
-/

namespace Parley.Number

/-- A positive double `mantissa * 2 ^ exponent`, with the mantissa scaled to 53 bits if it can be. -/
structure Binary where
  mantissa : Nat
  exponent : Int
  deriving DecidableEq, Repr

/-- The least mantissa of 53 bits. -/
def fullMantissa : Nat := 0x10000000000000

/-- The size of a finite double, by its bits; the sign is dropped. -/
def Binary.ofFloat (x : Float) : Binary :=
  let bits : Nat := x.toBits.toNat
  let field : Nat := bits / fullMantissa % 2048
  let fraction : Nat := bits % fullMantissa
  if field = 0 then ⟨fraction, -1074⟩ else ⟨fraction + fullMantissa, (field : Int) - 1075⟩

/-- The sign bit. -/
def signBit (x : Float) : Bool :=
  x.toBits >>> 63 == 1

/-- A decimal `digits * 10 ^ exponent`. -/
structure Decimal where
  digits : Nat
  exponent : Int
  deriving DecidableEq, Repr

/-- `b ^ e` on the side of a fraction on which the exponent is positive. -/
def powerOn (b : Nat) (e : Int) : Nat :=
  b.pow e.toNat

/-- The position of the decimal point: the least `k` with the value below `10 ^ k`. -/
def Binary.point (v : Binary) : Int :=
  let guess : Int := ((v.mantissa.log2 : Int) + v.exponent) * 30103 / 100000
  let below (k : Int) : Bool :=
    v.mantissa * powerOn 2 v.exponent * powerOn 10 (-k) < powerOn 2 (-v.exponent) * powerOn 10 k
  if below guess then guess else if below (guess + 1) then guess + 1 else guess + 2

/-- The point of the grid `10 ^ e` that is nearest to the value among its two neighbours
that round to it.  Distances are counted in quarters of the mantissa's unit. -/
def Binary.onGrid? (v : Binary) (e : Int) : Option Nat :=
  let scale := powerOn 2 (v.exponent - 2) * powerOn 10 (-e)
  let under := powerOn 2 (2 - v.exponent) * powerOn 10 e
  let middle := 4 * v.mantissa * scale
  let narrow := v.mantissa = fullMantissa ∧ v.exponent > -1074
  let low := (4 * v.mantissa - (if narrow then 1 else 2)) * scale
  let high := (4 * v.mantissa + 2) * scale
  let closed := v.mantissa % 2 = 0
  let hits (c : Nat) : Bool :=
    if closed then low ≤ c * under && c * under ≤ high
    else low < c * under && c * under < high
  let c := middle / under
  let left := middle - c * under
  let right := (c + 1) * under - middle
  match hits c, hits (c + 1) with
  | true, false => some c
  | false, true => some (c + 1)
  | true, true =>
    if left < right then some c
    else if right < left then some (c + 1)
    else if c % 2 = 0 then some c else some (c + 1)
  | false, false => none

/-- The digits found on the first grid with a hit, coarsest grid first. -/
def Binary.search (v : Binary) (k : Int) : List Nat → Option Decimal
  | [] => none
  | n :: rest =>
    match v.onGrid? (k - n) with
    | some c => some ⟨c, k - n⟩
    | none => v.search k rest

/-- The shortest decimal that rounds to a positive double. -/
def Binary.shortest (v : Binary) : Decimal :=
  let k := v.point
  match v.search k ((List.range 17).map (· + 1)) with
  | some d => d
  | none => ⟨v.mantissa, 0⟩

/-- The spellings of the numbers that have no digits. -/
structure FloatText where
  nan : String
  infinity : String

/-- The text of digits with the decimal point after `point` of them.  Sizes from `10 ^ 16`
on and below `10 ^ -4` are scientific, with at least two digits of exponent. -/
def layout (ds : List Char) (point : Int) : String :=
  if -4 < point ∧ point ≤ 16 then
    if point ≤ 0 then
      "0." ++ String.ofList (List.replicate (-point).toNat '0' ++ ds)
    else
      let p := point.toNat
      let whole := ds.take p ++ List.replicate (p - ds.length) '0'
      let part := ds.drop p
      String.ofList whole ++ "." ++ (if part.isEmpty then "0" else String.ofList part)
  else
    let e := point - 1
    let mark := if e < 0 then "e-" else "e+"
    let size := toString e.natAbs
    let width := if size.length < 2 then "0" ++ size else size
    let part := ds.drop 1
    String.ofList (ds.take 1) ++ (if part.isEmpty then "" else "." ++ String.ofList part)
      ++ mark ++ width

/-- The text of a double. -/
def FloatText.render (style : FloatText) (x : Float) : String :=
  if x.isNaN then style.nan
  else
    let sign := if signBit x then "-" else ""
    if x.isInf then sign ++ style.infinity
    else
      let v := Binary.ofFloat x
      if v.mantissa = 0 then sign ++ "0.0"
      else
        let d := v.shortest
        let ds := Nat.toDigits 10 d.digits
        let kept := (ds.reverse.dropWhile (· == '0')).reverse
        sign ++ layout kept ((ds.length : Int) + d.exponent)

end Parley.Number
