/-
Reading JSON text.

`parse` accepts the JSON grammar with `NaN`, `Infinity` and `-Infinity` added,
and keeps numbers with a fraction or an exponent apart from whole ones.  A
refused text is answered with the complaint and the place it is about.

The readers walk the list of characters and hand back the rest.  A flaw notes
how many characters were left at the place it is about, so that only the outermost
function has to know how long the text was.
-/
import Parley.Value
import Parley.Text.Class
import Parley.Text.Half
import Parley.Number.Reading

namespace Parley.Json

/-! ### What can be wrong -/

/-- What a text that is not JSON lacks, or has too much of. -/
inductive Complaint where
  | value
  | propertyName
  | colon
  | comma
  | unterminated
  | control
  | escape
  | unicodeEscape
  | extra
  | byteOrderMark
  deriving DecidableEq, Repr

/-- The wording of a complaint. -/
def Complaint.message : Complaint → String
  | .value => "Expecting value"
  | .propertyName => "Expecting property name enclosed in double quotes"
  | .colon => "Expecting ':' delimiter"
  | .comma => "Expecting ',' delimiter"
  | .unterminated => "Unterminated string starting at"
  | .control => "Invalid control character at"
  | .escape => "Invalid \\escape"
  | .unicodeEscape => "Invalid \\uXXXX escape"
  | .extra => "Extra data"
  | .byteOrderMark => "Unexpected UTF-8 BOM (decode using utf-8-sig)"

/-- A flaw met while reading, with the characters left at its place. -/
inductive Stop where
  | syntaxError (complaint : Complaint) (left : Nat)
  | longNumber (digits : Nat)
  | tooDeep
  deriving DecidableEq, Repr

/-- A flaw of a whole text: a complaint with its line, column and offset, a whole number with too
many digits, or too many levels of nesting. -/
inductive Flaw where
  | syntaxError (complaint : Complaint) (line column offset : Nat)
  | longNumber (digits : Nat)
  | tooDeep
  deriving DecidableEq, Repr

/-- The wording of a flaw. -/
def Flaw.message : Flaw → String
  | .syntaxError complaint line column offset =>
    complaint.message ++ s!": line {line} column {column} (char {offset})"
  | .longNumber digits => Number.tooManyDigits digits
  | .tooDeep => "maximum recursion depth exceeded"

/-- Place a flaw in the text it was met in. -/
def Stop.place (text : List Char) : Stop → Flaw
  | .longNumber digits => .longNumber digits
  | .tooDeep => .tooDeep
  | .syntaxError complaint left =>
    let before := text.take (text.length - left)
    .syntaxError complaint (before.count '\n' + 1)
      ((before.reverse.takeWhile (· != '\n')).length + 1) before.length

/-- Complain about the place at which the rest begins. -/
def complain {β : Type} (complaint : Complaint) (rest : List Char) : Except Stop (β × List Char) :=
  .error (.syntaxError complaint rest.length)

/-! ### Strings -/

/-- Whether a character separates the tokens of a text. -/
def isSpace (c : Char) : Bool :=
  c == ' ' || c == '\t' || c == '\n' || c == '\r'

/-- The characters after leading space. -/
def skipSpace (cs : List Char) : List Char :=
  cs.dropWhile isSpace

/-- The character that a one-letter escape stands for. -/
def escaped? : Char → Option Char
  | '"' => some '"'
  | '\\' => some '\\'
  | '/' => some '/'
  | 'b' => some '\x08'
  | 'f' => some '\x0c'
  | 'n' => some '\n'
  | 'r' => some '\r'
  | 't' => some '\t'
  | _ => none

/-- The UTF-16 unit of four hexadecimal digits. -/
def unit? : List Char → Option (Nat × List Char)
  | a :: b :: c :: d :: rest => do
    let a ← Text.hexValue? a
    let b ← Text.hexValue? b
    let c ← Text.hexValue? c
    let d ← Text.hexValue? d
    return (a * 4096 + b * 256 + c * 16 + d, rest)
  | _ => none

/-- The second unit of a surrogate pair, if one is escaped next. -/
def lowUnit? : List Char → Option (Nat × List Char)
  | '\\' :: 'u' :: rest => (unit? rest).filter fun (n, _) => 0xDC00 ≤ n && n < 0xE000
  | _ => none

/-- Whether an escaped unit comes next that is no unit at all. -/
def brokenUnit : List Char → Bool
  | '\\' :: 'u' :: rest => rest.length > 4 && (unit? rest).isNone
  | _ => false

/-- The characters of a string after its opening quote, and the text after its closing one.
`opening` is the number of characters left at the opening quote.  Half of a surrogate pair is
kept. -/
def stringBody (opening : Nat) : Nat → List Char → Except Stop (List Char × List Char)
  | 0, _ => .error (.syntaxError .unterminated opening)
  | _ + 1, [] => .error (.syntaxError .unterminated opening)
  | n + 1, c :: rest =>
    let go (x : Char) (more : List Char) : Except Stop (List Char × List Char) := do
      let (s, after) ← stringBody opening n more
      return (x :: s, after)
    if c = '"' then .ok ([], rest)
    else if c = '\\' then
      match rest with
      | [] => .error (.syntaxError .unterminated opening)
      | 'u' :: digits =>
        if digits.length ≤ 4 then complain .unicodeEscape rest
        else match unit? digits with
          | none => complain .unicodeEscape rest
          | some (n, more) =>
            if 0xD800 ≤ n ∧ n < 0xDC00 then
              match lowUnit? more with
              | some (low, after) =>
                if more.length > 6 then
                  go (Char.ofNat (0x10000 + (n - 0xD800) * 0x400 + (low - 0xDC00))) after
                else go (Text.half n) more
              | none =>
                if brokenUnit more then complain .unicodeEscape (more.drop 1)
                else go (Text.half n) more
            else if 0xDC00 ≤ n ∧ n < 0xE000 then go (Text.half n) more
            else go (Char.ofNat n) more
      | e :: more =>
        match escaped? e with
        | some x => go x more
        | none => complain .escape (c :: rest)
    else if c.toNat < 0x20 then complain .control (c :: rest)
    else go c rest

/-- A string whose opening quote has just been passed. -/
def stringAfterQuote (rest : List Char) : Except Stop (String × List Char) := do
  let (cs, after) ← stringBody (rest.length + 1) (rest.length + 1) rest
  return (String.ofList cs, after)

/-! ### Numbers -/

/-- Whether a character is an ASCII digit. -/
def isDigit (c : Char) : Bool :=
  '0' ≤ c && c ≤ '9'

/-- The value of ASCII digits. -/
def digits (cs : List Char) : List Nat :=
  cs.map fun c => c.toNat - '0'.toNat

/-- The digits of the fraction after a whole part, if a fraction follows. -/
def fractionPart (cs : List Char) : Option (List Char × List Char) :=
  match cs with
  | '.' :: rest =>
    let ds := rest.takeWhile isDigit
    if ds.isEmpty then none else some (ds, rest.dropWhile isDigit)
  | _ => none

/-- The exponent after a number, if one follows. -/
def exponentPart (cs : List Char) : Option (Int × List Char) :=
  match cs with
  | mark :: rest =>
    if mark = 'e' ∨ mark = 'E' then
      let (negative, body) := Number.takeSign rest
      let ds := body.takeWhile isDigit
      if ds.isEmpty then none
      else
        let n : Int := Number.ofDigits (digits ds)
        some (if negative then -n else n, body.dropWhile isDigit)
    else none
  | [] => none

/-- The whole part of a number: a lone zero or digits that start with another. -/
def wholePart (cs : List Char) : Option (List Char × List Char) :=
  match cs with
  | '0' :: rest => some (['0'], rest)
  | c :: _ => if isDigit c then some (cs.takeWhile isDigit, cs.dropWhile isDigit) else none
  | [] => none

/-- A number, if one comes first. -/
def number {α : Type} (cs : List Char) : Except Stop (Value α × List Char) :=
  let (negative, body) := match cs with
    | '-' :: rest => (true, rest)
    | _ => (false, cs)
  match wholePart body with
  | none => complain .value cs
  | some (whole, rest) =>
    let fraction := fractionPart rest
    let rest := (fraction.map Prod.snd).getD rest
    let exponent := exponentPart rest
    let rest := (exponent.map Prod.snd).getD rest
    if fraction.isNone && exponent.isNone then
      if whole.length > Number.digitLimit then .error (.longNumber whole.length)
      else
        let n : Int := Number.ofDigits (digits whole)
        .ok (.int (if negative then -n else n), rest)
    else
      let part := (fraction.map Prod.fst).getD []
      let e := (exponent.map Prod.fst).getD 0
      let size := Number.ofDecimal (Number.ofDigits (digits (whole ++ part))) (e - part.length)
      .ok (.float (if negative then -size else size), rest)

/-- The words of the grammar and the values they stand for. -/
def words (α : Type) : List (List Char × Value α) := [
  ("null".toList, .null),
  ("true".toList, .bool true),
  ("false".toList, .bool false),
  ("NaN".toList, .float Number.notANumber),
  ("Infinity".toList, .float Number.infinity),
  ("-Infinity".toList, .float (-Number.infinity))]

/-- The word that comes first, if any does. -/
def word? {α : Type} (cs : List Char) : Option (Value α × List Char) :=
  ((words α).find? fun w => w.1.isPrefixOf cs).map fun w => (w.2, cs.drop w.1.length)

/-! ### Values -/

/-- The most levels of nesting that a text may have.  The reader calls itself at every level, and no
more than a thousand calls may be open at once; this is what is left of them where texts are usually
read.  How many are open by then depends on the surroundings, so nothing is proved of the number. -/
def nestingLimit : Nat := 985

mutual

/-- The value that comes first, with `levels` more levels of nesting.  The count bounds the number
of parts. -/
def value {α : Type} (levels : Nat) : Nat → List Char → Except Stop (Value α × List Char)
  | 0, cs => complain .value cs
  | n + 1, cs =>
    match cs, levels with
    | '"' :: rest, _ => do
      let (s, after) ← stringAfterQuote rest
      return (.str s, after)
    | '\x7b' :: _, 0 | '[' :: _, 0 => .error .tooDeep
    | '\x7b' :: rest, levels + 1 =>
      match skipSpace rest with
      | '\x7d' :: after => .ok (.obj [], after)
      | body => do
        let (pairs, after) ← members levels n body
        return (.obj (Entries.ofPairs pairs), after)
    | '[' :: rest, levels + 1 =>
      match skipSpace rest with
      | ']' :: after => .ok (.list [], after)
      | body => do
        let (items, after) ← elements levels n body
        return (.list items, after)
    | _, _ =>
      match word? cs with
      | some found => .ok found
      | none => number cs

/-- The elements of a non-empty array, up to its closing bracket. -/
def elements {α : Type} (levels : Nat) : Nat → List Char → Except Stop (List (Value α) × List Char)
  | 0, cs => complain .value cs
  | n + 1, cs => do
    let (v, after) ← value levels n cs
    match skipSpace after with
    | ']' :: rest => return ([v], rest)
    | ',' :: rest =>
      let (items, after) ← elements levels n (skipSpace rest)
      return (v :: items, after)
    | rest => complain .comma rest

/-- The members of a non-empty object, up to its closing brace. -/
def members {α : Type} (levels : Nat) : Nat → List Char → Except Stop (List (String × Value α) × List Char)
  | 0, cs => complain .value cs
  | n + 1, cs =>
    match cs with
    | '"' :: rest => do
      let (key, after) ← stringAfterQuote rest
      match skipSpace after with
      | ':' :: rest =>
        let (v, after) ← value levels n (skipSpace rest)
        match skipSpace after with
        | '\x7d' :: rest => return ([(key, v)], rest)
        | ',' :: rest =>
          let (pairs, after) ← members levels n (skipSpace rest)
          return ((key, v) :: pairs, after)
        | rest => complain .comma rest
      | rest => complain .colon rest
    | _ => complain .propertyName cs

end

/-- The value that characters spell. -/
def parseChars {α : Type} (cs : List Char) : Except Flaw (Value α) :=
  match value nestingLimit (cs.length + 1) (skipSpace cs) with
  | .error stop => .error (stop.place cs)
  | .ok (v, after) =>
    match skipSpace after with
    | [] => .ok v
    | rest => .error ((Stop.syntaxError .extra rest.length).place cs)

/-- The value that a whole text spells.  A text has been decoded already, so a byte order mark at
its start is refused. -/
def parse {α : Type} (s : String) : Except Flaw (Value α) :=
  match s.toList with
  | '\uFEFF' :: _ => .error (.syntaxError .byteOrderMark 1 1 0)
  | cs => parseChars cs

end Parley.Json
