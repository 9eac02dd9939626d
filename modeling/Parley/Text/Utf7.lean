/-
Text in UTF-7.

Most ASCII characters stand for themselves.  A plus sign begins a section of base64
digits, which spell UTF-16 units; the section goes on up to the first character
that is no such digit, and a hyphen there only ends it.  A plus sign itself is
written as an empty section.

The units of a section need not fill its last digit, and the bits that are left
over have to be zeros, fewer than a digit has.
-/
import Parley.Text.Undecodable
import Parley.Text.Base64

namespace Parley.Text.Utf7

/-- The units that digits spell, last one first, and the bits after the last unit. -/
structure Section where
  units : List Nat := []
  count : Nat := 0
  bits : Nat := 0
  deriving DecidableEq, Repr, Inhabited

namespace Section

/-- A section with one more digit. -/
def add (s : Section) (digit : Nat) : Section :=
  let count := s.count + 6
  let bits := s.bits * 64 + digit
  if count < 16 then ⟨s.units, count, bits⟩
  else
    let weight := Nat.pow 2 (count - 16)
    ⟨bits / weight :: s.units, count - 16, bits % weight⟩

/-- The section of some digits. -/
def ofDigits (digits : List Nat) : Section :=
  digits.foldl add {}

/-- Why a section cannot end here, if it cannot. -/
def flaw? (s : Section) : Option String :=
  if s.count ≥ 6 then some "partial character in shift sequence"
  else if s.bits ≠ 0 then some "non-zero padding bits in shift sequence"
  else none

end Section

/-- The characters of units, and the first half of a pair that the last unit may be. -/
def joined : List Nat → List Char × Option Nat
  | [] => ([], none)
  | [u] => if isFirstHalf u then ([], some u) else ([charOf u], none)
  | u :: v :: rest =>
    if isFirstHalf u && isSecondHalf v then
      let (cs, open_) := joined rest
      (paired u v :: cs, open_)
    else
      let (cs, open_) := joined (v :: rest)
      (charOf u :: cs, open_)

/-- The digits at the front of some bytes. -/
def leadingDigits : List UInt8 → List Nat
  | [] => []
  | b :: rest =>
    match Base64.value? (Char.ofNat b.toNat) with
    | some n => n :: leadingDigits rest
    | none => []

/-- The characters of bytes that begin at a position.  The count bounds the number of bytes. -/
def decodeFrom : Nat → Nat → List UInt8 → Except Undecodable (List Char)
  | 0, _, _ => .ok []
  | _, _, [] => .ok []
  | fuel + 1, at_, b :: rest =>
    let flaw (reason : String) (count : Nat) : Except Undecodable (List Char) :=
      .error (undecodable "utf7" reason at_ ((b :: rest).take count))
    if b ≥ 0x80 then flaw "unexpected special character" 1
    else if Char.ofNat b.toNat ≠ '+' then
      (decodeFrom fuel (at_ + 1) rest).map (Char.ofNat b.toNat :: ·)
    else
      let digits := leadingDigits rest
      let size := digits.length + 1
      let content := Section.ofDigits digits
      let (cs, open_) := joined content.units.reverse
      match rest.drop digits.length with
      | [] =>
        if content.flaw?.isSome || open_.isSome then flaw "unterminated shift sequence" size
        else .ok cs
      | c :: more =>
        let hyphen := Char.ofNat c.toNat = '-'
        if digits.isEmpty ∧ hyphen then (decodeFrom fuel (at_ + 2) more).map ('+' :: ·)
        else if digits.isEmpty then flaw "ill-formed sequence" 2
        else match content.flaw? with
          | some reason => flaw reason (size + 1)
          | none =>
            let cs := if c < 0x80 then cs ++ (open_.map half).toList else cs
            if hyphen then (decodeFrom fuel (at_ + size + 1) more).map (cs ++ ·)
            else (decodeFrom fuel (at_ + size) (c :: more)).map (cs ++ ·)

/-- The characters of bytes. -/
def decode (bs : List UInt8) : Except Undecodable (List Char) :=
  decodeFrom (bs.length + 1) 0 bs

/-- Whether a character stands for itself outside of a section. -/
def isDirect (c : Char) : Bool :=
  c = '\t' || c = '\n' || c = '\r' || (' ' ≤ c && c ≤ '}' && c ≠ '+' && c ≠ '\\')

/-- A text in UTF-7.  The count bounds its length. -/
def encodeUpTo : Nat → List Char → List Char
  | 0, _ => []
  | _, [] => []
  | fuel + 1, c :: rest =>
    if isDirect c then c :: encodeUpTo fuel rest
    else if c = '+' then '+' :: '-' :: encodeUpTo fuel rest
    else
      let content := (c :: rest).takeWhile fun c => !isDirect c
      let after := rest.drop (content.length - 1)
      let units := content.flatMap utf16Units
      let digits := (Base64.encode (units.flatMap (unitBytes true 2))).filter (· ≠ '=')
      let ending :=
        match after with
        | [] => ['-']
        | d :: _ => if d = '-' ∨ (Base64.value? d).isSome then ['-'] else []
      '+' :: digits ++ ending ++ encodeUpTo fuel after

/-- The bytes of a text. -/
def encode (cs : List Char) : List UInt8 :=
  (encodeUpTo (cs.length + 1) cs).map fun c => UInt8.ofNat c.toNat

end Parley.Text.Utf7
