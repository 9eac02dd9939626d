/-
Base64 text.

`encode` writes the standard alphabet with padding.  `decode` is forgiving in
the way mail readers are: characters outside the alphabet are skipped, and
padding ends the text once it completes a group of four.  What it does insist
on is that the characters of the alphabet come in whole groups.
-/

namespace Parley.Base64

/-- The character that stands for six bits. -/
def digit (n : Nat) : Char :=
  if n < 26 then Char.ofNat ('A'.toNat + n)
  else if n < 52 then Char.ofNat ('a'.toNat + (n - 26))
  else if n < 62 then Char.ofNat ('0'.toNat + (n - 52))
  else if n = 62 then '+'
  else '/'

/-- The six bits that a character stands for. -/
def value? (c : Char) : Option Nat :=
  if 'A' ≤ c ∧ c ≤ 'Z' then some (c.toNat - 'A'.toNat)
  else if 'a' ≤ c ∧ c ≤ 'z' then some (c.toNat - 'a'.toNat + 26)
  else if '0' ≤ c ∧ c ≤ '9' then some (c.toNat - '0'.toNat + 52)
  else if c = '+' then some 62
  else if c = '/' then some 63
  else none

/-- The characters of the padded base64 text of some bytes. -/
def encode : List UInt8 → List Char
  | a :: b :: c :: rest =>
    let n := a.toNat * 65536 + b.toNat * 256 + c.toNat
    digit (n / 262144) :: digit (n / 4096 % 64) :: digit (n / 64 % 64) :: digit (n % 64)
      :: encode rest
  | [a, b] =>
    let n := a.toNat * 1024 + b.toNat * 4
    [digit (n / 4096), digit (n / 64 % 64), digit (n % 64), '=']
  | [a] =>
    let n := a.toNat * 16
    [digit (n / 64), digit (n % 64), '=', '=']
  | [] => []

/-- The base64 text of some bytes. -/
def text (b : List UInt8) : String :=
  String.ofList (encode b)

/-- The characters of the alphabet that count, and whether padding ended the text.
`place` is the place in the current group of four, `pads` the paddings since the last
character that counted. -/
def collect (place pads : Nat) : List Char → List Nat × Bool
  | [] => ([], false)
  | c :: rest =>
    if c = '=' then
      if place < 2 then collect place pads rest
      else if place + (pads + 1) ≥ 4 then ([], true)
      else collect place (pads + 1) rest
    else match value? c with
      | none => collect place pads rest
      | some n =>
        let (ns, padded) := collect ((place + 1) % 4) 0 rest
        (n :: ns, padded)

/-- The whole bytes in a sequence of six-bit numbers. -/
def pack : List Nat → List UInt8
  | a :: b :: c :: d :: rest =>
    let n := a * 262144 + b * 4096 + c * 64 + d
    UInt8.ofNat (n / 65536) :: UInt8.ofNat (n / 256) :: UInt8.ofNat n :: pack rest
  | [a, b, c] =>
    let n := a * 4096 + b * 64 + c
    [UInt8.ofNat (n / 1024), UInt8.ofNat (n / 4)]
  | [a, b] => [UInt8.ofNat ((a * 64 + b) / 16)]
  | _ => []

/-- Why a text is not the base64 text of anything. -/
inductive Flaw where
  /-- The text holds a character outside ASCII. -/
  | notAscii
  /-- The last group has a single character; `count` is the number of characters that count. -/
  | lone (count : Nat)
  /-- The last group lacks its padding. -/
  | unpadded
  deriving DecidableEq, Repr

/-- The wording of a flaw. -/
def Flaw.message : Flaw → String
  | .notAscii => "string argument should contain only ASCII characters"
  | .lone count =>
    s!"Invalid base64-encoded string: number of data characters ({count}) " ++
      "cannot be 1 more than a multiple of 4"
  | .unpadded => "Incorrect padding"

/-- The bytes that a base64 text stands for. -/
def decode (cs : List Char) : Except Flaw (List UInt8) :=
  if cs.any fun c => c.toNat ≥ 0x80 then .error .notAscii
  else
    let (ns, padded) := collect 0 0 cs
    if padded || ns.length % 4 == 0 then .ok (pack ns)
    else if ns.length % 4 == 1 then .error (.lone ns.length)
    else .error .unpadded

end Parley.Base64
