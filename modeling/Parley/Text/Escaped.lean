/-
Text with escapes for what is not ASCII.

A byte stands for the character with its number, and a backslash begins an escape.
In the raw form only numbered characters are escaped, and every other backslash
stands for itself; in the full form there are also escapes for control characters,
for quotes and for the backslash, and one that joins two lines.
-/
import Parley.Text.Undecodable

namespace Parley.Text.Escaped

/-- The character that a letter stands for behind a backslash. -/
def short? : Char → Option Char
  | '\\' => some '\\'
  | '\'' => some '\''
  | '"' => some '"'
  | 'a' => some '\x07'
  | 'b' => some '\x08'
  | 't' => some '\t'
  | 'n' => some '\n'
  | 'v' => some '\x0b'
  | 'f' => some '\x0c'
  | 'r' => some '\r'
  | _ => none

/-- How many hexadecimal digits follow a letter behind a backslash, and how such an escape is
pictured. -/
def numbered? (raw : Bool) : Char → Option (Nat × String)
  | 'x' => if raw then none else some (2, "\\xXX")
  | 'u' => some (4, "\\uXXXX")
  | 'U' => some (8, "\\UXXXXXXXX")
  | _ => none

/-- The digits to some base at the front of a text, at most so many. -/
def leading (value? : Char → Option Nat) : Nat → List Char → List Nat
  | 0, _ => []
  | _, [] => []
  | n + 1, c :: rest =>
    match value? c with
    | some d => d :: leading value? n rest
    | none => []

/-- The value of an octal digit. -/
def octalValue? (c : Char) : Option Nat :=
  if '0' ≤ c ∧ c ≤ '7' then some (c.toNat - '0'.toNat) else none

/-- An escape, without its backslash: the characters it stands for and how many it takes up, or why
it is none and how many the flaw takes up. -/
def escape (raw : Bool) : List Char → Except (String × Nat) (List Char × Nat)
  | [] => if raw then .ok (['\\'], 0) else .error ("\\ at end of string", 0)
  | c :: rest =>
    match numbered? raw c with
    | some (count, picture) =>
      let ds := leading hexValue? count rest
      let n := ds.foldl (fun n d => n * 16 + d) 0
      if ds.length < count then .error (s!"truncated {picture} escape", ds.length + 1)
      else if n ≥ 0x110000 then
        .error (if raw then "\\Uxxxxxxxx out of range" else "illegal Unicode character", count + 1)
      else .ok ([charOf n], count + 1)
    | none =>
      if raw then .ok (['\\', c], 1)
      else match short? c, leading octalValue? 3 (c :: rest) with
        | some e, _ => .ok ([e], 1)
        | none, [] =>
          if c = '\n' then .ok ([], 1)
          else if c = 'N' then .error (named rest)
          else .ok (['\\', c], 1)
        | none, ds => .ok ([Char.ofNat (ds.foldl (fun n d => n * 8 + d) 0)], ds.length)
where
  /-- What is wrong with an escape by name: no character is known by one. -/
  named : List Char → String × Nat
    | '\x7b' :: rest =>
      let name := rest.takeWhile (· ≠ '\x7d')
      if name.length = rest.length then ("malformed \\N character escape", name.length + 2)
      else if name.isEmpty then ("malformed \\N character escape", 2)
      else ("unknown Unicode character name", name.length + 3)
    | _ => ("malformed \\N character escape", 1)

/-- The characters of bytes that begin at a position.  The count bounds the number of bytes. -/
def decodeFrom (raw : Bool) : Nat → Nat → List UInt8 → Except Undecodable (List Char)
  | 0, _, _ => .ok []
  | _, _, [] => .ok []
  | fuel + 1, at_, b :: rest =>
    let c := Char.ofNat b.toNat
    if c ≠ '\\' then (decodeFrom raw fuel (at_ + 1) rest).map (c :: ·)
    else match escape raw (rest.map fun b => Char.ofNat b.toNat) with
      | .ok (cs, count) =>
        (decodeFrom raw fuel (at_ + 1 + count) (rest.drop count)).map (cs ++ ·)
      | .error (reason, count) =>
        .error (undecodable (if raw then "rawunicodeescape" else "unicodeescape") reason at_
          ((b :: rest).take (count + 1)))

/-- The characters of bytes. -/
def decode (raw : Bool) (bs : List UInt8) : Except Undecodable (List Char) :=
  decodeFrom raw (bs.length + 1) 0 bs

/-- The escape of a character by its number. -/
def byNumber (c : Char) : List Char :=
  if c.toNat < 0x100 then '\\' :: 'x' :: hexDigits 2 c.toNat
  else if c.toNat < 0x10000 then '\\' :: 'u' :: hexDigits 4 c.toNat
  else '\\' :: 'U' :: hexDigits 8 c.toNat

/-- The bytes of a text. -/
def encode (raw : Bool) (cs : List Char) : List UInt8 :=
  (cs.flatMap one).map fun c => UInt8.ofNat c.toNat
where
  /-- How a character is written. -/
  one (c : Char) : List Char :=
    if raw then if c.toNat < 0x100 then [c] else byNumber c
    else match c with
      | '\\' => ['\\', '\\']
      | '\t' => ['\\', 't']
      | '\n' => ['\\', 'n']
      | '\r' => ['\\', 'r']
      | c => if ' ' ≤ c ∧ c ≤ '~' then [c] else byNumber c

end Parley.Text.Escaped
