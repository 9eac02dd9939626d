/-
Powers of doubles.

A finite double is a whole number times a power of two, so its powers are too, and a
power is the exact one rounded once.  It is computed with `workingBits` between two
bounds, one of which is always cut down and the other always up.  Where both round to
the same double, so does the exact power in between; only where they do not is it
computed in full.
-/
import Parley.Number.Shortest
import Parley.Number.Reading

namespace Parley.Number

/-- The bits that are kept of a bound. -/
def workingBits : Nat := 320

namespace Binary

/-- The double nearest to a value, ties to even; infinite when out of range. -/
def toFloat (v : Binary) : Float :=
  .ofModel (.pack (.round .binary64 .positive v.mantissa v.exponent))

/-- Keep the leading bits of a value, and so make it smaller or, going up, larger. -/
def cut (up : Bool) (v : Binary) : Binary :=
  let extra := v.mantissa.log2 + 1 - workingBits
  let unit := Nat.pow 2 extra
  ⟨(if up then v.mantissa + (unit - 1) else v.mantissa) / unit, v.exponent + extra⟩

/-- The exact product. -/
def times (a b : Binary) : Binary :=
  ⟨a.mantissa * b.mantissa, a.exponent + b.exponent⟩

/-- The exact power. -/
def exactPower (v : Binary) (n : Nat) : Binary :=
  ⟨v.mantissa.pow n, v.exponent * n⟩

/-- A lower or an upper bound of a power, by repeated squaring.  The count bounds the bits of `n`. -/
def bound (v : Binary) (up : Bool) : Nat → Nat → Binary
  | 0, _ => ⟨1, 0⟩
  | count + 1, n =>
    if n = 0 then ⟨1, 0⟩
    else
      let half := v.bound up count (n / 2)
      let square := (half.times half).cut up
      if n % 2 = 0 then square else (square.times v).cut up

/-- The double nearest to a power. -/
def power (v : Binary) (n : Nat) : Float :=
  let low := (v.bound false (n.log2 + 1) n).toFloat
  let high := (v.bound true (n.log2 + 1) n).toFloat
  if low == high then low else (v.exactPower n).toFloat

end Binary

/-- The double nearest to `num / den * 2 ^ e`, ties to even; infinite when out of range. -/
def ofFraction (num den : Nat) (e : Int) : Float :=
  if num = 0 ∨ den = 0 then 0.0
  else
    let size : Int := (num.log2 : Int) - den.log2
    -- the exponent of the unit in the last place, which is never below that of the least double
    let low : Int := if size - 53 + e < -1074 then -1074 - e else size - 53
    let scaled := num * powerOn 2 (-low)
    let divisor := den * powerOn 2 low
    let wide := scaled / divisor
    let extra := if wide ≥ 2 * fullMantissa then wide.log2 - 52 else 0
    let unit := divisor <<< extra
    let n := scaled / unit
    let rest := scaled - n * unit
    let n := if 2 * rest > unit ∨ (2 * rest = unit ∧ n % 2 = 1) then n + 1 else n
    let place : Int := low + extra + e
    let (n, place) := if n = 2 * fullMantissa then (fullMantissa, place + 1) else (n, place)
    if n < fullMantissa then Float.ofBits (UInt64.ofNat n)
    else
      let field := place + 1075
      if field ≥ 2047 then infinity
      else Float.ofBits (UInt64.ofNat (field.toNat * fullMantissa + (n - fullMantissa)))

/-- A finite double that is at least one, to a whole power. -/
def powerOf (x : Float) (n : Int) : Float :=
  let v := Binary.ofFloat x
  if n ≥ 0 then v.power n.toNat
  else
    let p := v.bound false (n.natAbs.log2 + 1) n.natAbs
    -- an inverse far below the least double is not computed
    if p.mantissa.log2 + p.exponent > 1100 then 0.0
    else ofFraction 1 p.mantissa (-p.exponent)

end Parley.Number
