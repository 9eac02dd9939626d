/-
Units of text, and bytes that make none.

An encoding turns characters into units of some width, and units into bytes in one
of two orders.  Where bytes make no character, `Undecodable` says which they are
and why.
-/
import Parley.Text.Class
import Parley.Text.Half

namespace Parley.Text

/-- Bytes that stand for no text: those from `start` up to `stop`, of which `byte` is the first. -/
structure Undecodable where
  encoding : String
  byte : UInt8
  start : Nat
  stop : Nat
  reason : String
  deriving DecidableEq, Repr

/-- The wording of undecodable bytes. -/
def Undecodable.message (u : Undecodable) : String :=
  if u.stop = u.start + 1 then
    s!"'{u.encoding}' codec can't decode byte 0x" ++ String.ofList (hexDigits 2 u.byte.toNat) ++
      s!" in position {u.start}: {u.reason}"
  else
    s!"'{u.encoding}' codec can't decode bytes in position {u.start}-{u.stop - 1}: {u.reason}"

/-- What to do with half of a surrogate pair. -/
inductive Surrogates where
  | refuse
  | keep
  deriving DecidableEq, Repr

/-- A flaw that covers the given bytes from a position on. -/
def undecodable (encoding reason : String) (start : Nat) (bad : List UInt8) : Undecodable :=
  ⟨encoding, bad.headD 0, start, start + bad.length, reason⟩

/-! ### Units -/

/-- The number that bytes spell. -/
def unitOf (bigEndian : Bool) (bs : List UInt8) : Nat :=
  (if bigEndian then bs else bs.reverse).foldl (fun n b => n * 256 + b.toNat) 0

/-- The bytes of a number in an order. -/
def unitBytes (bigEndian : Bool) (width n : Nat) : List UInt8 :=
  let low := (List.range width).map fun i => UInt8.ofNat (n / Nat.pow 256 i)
  if bigEndian then low.reverse else low

/-- The UTF-16 units of a character. -/
def utf16Units (c : Char) : List Nat :=
  if c.toNat < 0x10000 then [c.toNat]
  else
    let n := c.toNat - 0x10000
    [0xD800 + n / 0x400, 0xDC00 + n % 0x400]

/-- Whether a unit is the first half of a pair. -/
def isFirstHalf (unit : Nat) : Bool :=
  0xD800 ≤ unit && unit < 0xDC00

/-- Whether a unit is the second half of a pair. -/
def isSecondHalf (unit : Nat) : Bool :=
  0xDC00 ≤ unit && unit < 0xE000

/-- The character of a pair. -/
def paired (first second : Nat) : Char :=
  Char.ofNat (0x10000 + (first - 0xD800) * 0x400 + (second - 0xDC00))

/-- The character with a number; half of a pair is kept. -/
def charOf (n : Nat) : Char :=
  if isHalf n then half n else Char.ofNat n

end Parley.Text
