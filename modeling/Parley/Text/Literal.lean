/-
Values spelled out in messages.

Log records and error texts show values as literals: text in quotes with
everything that does not print escaped, lists in brackets, pairs in braces.  A
text is put in single quotes unless that would mean escaping one and not
escaping a double quote.
-/
import Parley.Value
import Parley.Text.Category
import Parley.Text.Class
import Parley.Text.Half
import Parley.Number.Shortest

namespace Parley.Literal

/-- The quote to put around characters, given which quotes occur in them. -/
def quoteFor (single double : Bool) : Char :=
  if single && !double then '"' else '\''

/-- A character inside a quoted text. -/
def escapeChar (mark c : Char) : List Char :=
  if c = mark ∨ c = '\\' then ['\\', c]
  else if c = '\n' then ['\\', 'n']
  else if c = '\r' then ['\\', 'r']
  else if c = '\t' then ['\\', 't']
  else if Text.isPrintable c then [c]
  else
    let n := (Text.halfUnit? c).getD c.toNat
    if n < 0x100 then '\\' :: 'x' :: Text.hexDigits 2 n
    else if n < 0x10000 then '\\' :: 'u' :: Text.hexDigits 4 n
    else '\\' :: 'U' :: Text.hexDigits 8 n

/-- A quoted text. -/
def quote (s : String) : String :=
  let cs := s.toList
  let mark := quoteFor (cs.contains '\'') (cs.contains '"')
  String.ofList (mark :: (cs.flatMap (escapeChar mark) ++ [mark]))

/-- A byte inside quoted bytes. -/
def escapeByte (mark : Char) (b : UInt8) : List Char :=
  let c := Char.ofNat b.toNat
  if c = mark ∨ c = '\\' then ['\\', c]
  else if c = '\n' then ['\\', 'n']
  else if c = '\r' then ['\\', 'r']
  else if c = '\t' then ['\\', 't']
  else if ' ' ≤ c ∧ c ≤ '~' then [c]
  else '\\' :: 'x' :: Text.hexDigits 2 b.toNat

/-- Quoted bytes. -/
def quoteBytes (b : List UInt8) : String :=
  let mark := quoteFor (b.contains 39) (b.contains 34)
  String.ofList ('b' :: mark :: (b.flatMap (escapeByte mark) ++ [mark]))

/-- The spellings of a double in a message. -/
def floatText : Number.FloatText := ⟨"nan", "inf"⟩

section

variable {α : Type}

mutual

/-- A value spelled out, with foreign leaves spelled by `leaf`. -/
def write (leaf : α → String) : Value α → String
  | .null => "None"
  | .bool b => if b then "True" else "False"
  | .int n => toString n
  | .float x => floatText.render x
  | .str s => quote s
  | .bytes b => quoteBytes b
  | .list items => "[" ++ ", ".intercalate (writeItems leaf items) ++ "]"
  | .tuple items =>
    match writeItems leaf items with
    | [one] => "(" ++ one ++ ",)"
    | parts => "(" ++ ", ".intercalate parts ++ ")"
  | .obj entries => "\x7b" ++ ", ".intercalate (writeEntries leaf entries) ++ "\x7d"
  | .leaf a => leaf a

/-- The items spelled out. -/
def writeItems (leaf : α → String) : List (Value α) → List String
  | [] => []
  | v :: rest => write leaf v :: writeItems leaf rest

/-- The entries spelled out. -/
def writeEntries (leaf : α → String) : List (String × Value α) → List String
  | [] => []
  | (k, v) :: rest => (quote k ++ ": " ++ write leaf v) :: writeEntries leaf rest

end

end

end Parley.Literal

namespace Parley

namespace Value

/-- A foreign leaf as a literal: a fault shows its kind. -/
def leafLiteral : Opaque → String
  | .fault kind text _ => kind ++ "(" ++ Literal.quote text ++ ")"
  | o => o.text

/-- A value as a literal. -/
def literal (v : Document) : String :=
  Literal.write leafLiteral v

/-- A value in running text: a text or a leaf as it is, everything else as a literal. -/
def display (v : Document) : String :=
  match v with
  | .str s => s
  | .leaf o => o.text
  | v => literal v

end Value

end Parley
