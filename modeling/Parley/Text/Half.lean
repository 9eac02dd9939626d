/-
Halves of surrogate pairs.

Characters beyond the first 65536 are escaped as a pair of UTF-16 units, and a
text may hold one unit of such a pair by itself.  It is kept as a character for
private use, so that it can be written out again as the unit that it was.
-/

namespace Parley.Text

/-- Whether a UTF-16 unit is half of a pair. -/
def isHalf (unit : Nat) : Bool :=
  0xD800 ≤ unit && unit < 0xE000

/-- The character that half of a pair is kept as. -/
def half (unit : Nat) : Char :=
  Char.ofNat (0x100000 + unit)

/-- The unit that a character is kept for, if it is half of a pair. -/
def halfUnit? (c : Char) : Option Nat :=
  if 0x10D800 ≤ c.toNat ∧ c.toNat < 0x10E000 then some (c.toNat - 0x100000) else none

/-- Whether a text holds half of a pair. -/
def holdsHalf (s : String) : Bool :=
  s.toList.any fun c => (halfUnit? c).isSome

end Parley.Text
