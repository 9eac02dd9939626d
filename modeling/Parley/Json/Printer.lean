/-
JSON text.

`write` writes a value the way requests carry it: `", "` and `": "` between the
parts, keys in their order, and everything outside printable ASCII escaped.
Bytes and foreign leaves have no JSON text, and whole numbers have one only as
long as it is short enough; what is written for them is up to the caller, who
passes a replacement or refuses them.
-/
import Parley.Value
import Parley.Text.Class
import Parley.Text.Half
import Parley.Number.Shortest

namespace Parley.Json

/-- The spellings of a double in JSON text. -/
def floatText : Number.FloatText := ⟨"NaN", "Infinity"⟩

/-- An escaped UTF-16 unit. -/
def escapeUnit (n : Nat) : List Char :=
  '\\' :: 'u' :: Text.hexDigits 4 n

/-- The characters that stand for one character inside a JSON string. -/
def escapeChar (c : Char) : List Char :=
  if c = '"' then ['\\', '"']
  else if c = '\\' then ['\\', '\\']
  else if c = '\n' then ['\\', 'n']
  else if c = '\r' then ['\\', 'r']
  else if c = '\t' then ['\\', 't']
  else if c = '\x08' then ['\\', 'b']
  else if c = '\x0c' then ['\\', 'f']
  else if ' ' ≤ c ∧ c ≤ '~' then [c]
  else if c.toNat < 0x10000 then escapeUnit c.toNat
  else match Text.halfUnit? c with
    | some unit => escapeUnit unit
    | none =>
      let n := c.toNat - 0x10000
      escapeUnit (0xD800 + n / 0x400) ++ escapeUnit (0xDC00 + n % 0x400)

/-- The characters of a JSON string. -/
def stringChars (s : String) : List Char :=
  '"' :: (s.toList.flatMap escapeChar ++ ['"'])

/-- A JSON string. -/
def quote (s : String) : String :=
  String.ofList (stringChars s)

section

variable {ε α : Type}

mutual

/-- The JSON text of a value, with whole numbers, bytes and foreign leaves written by `intText`,
`bytesText` and `leafText`, each of which may refuse. -/
def write (intText : Int → Except ε String) (bytesText : List UInt8 → Except ε String)
    (leafText : α → Except ε String) : Value α → Except ε String
  | .null => .ok "null"
  | .bool b => .ok (if b then "true" else "false")
  | .int n => intText n
  | .float x => .ok (floatText.render x)
  | .str s => .ok (quote s)
  | .bytes b => bytesText b
  | .list items => do
    let parts ← writeItems intText bytesText leafText items
    return "[" ++ ", ".intercalate parts ++ "]"
  | .tuple items => do
    let parts ← writeItems intText bytesText leafText items
    return "[" ++ ", ".intercalate parts ++ "]"
  | .obj entries => do
    let parts ← writeEntries intText bytesText leafText entries
    return "\x7b" ++ ", ".intercalate parts ++ "\x7d"
  | .leaf a => leafText a

/-- The texts of items. -/
def writeItems (intText : Int → Except ε String) (bytesText : List UInt8 → Except ε String)
    (leafText : α → Except ε String) : List (Value α) → Except ε (List String)
  | [] => .ok []
  | v :: rest => do
    let first ← write intText bytesText leafText v
    let more ← writeItems intText bytesText leafText rest
    return first :: more

/-- The texts of entries. -/
def writeEntries (intText : Int → Except ε String) (bytesText : List UInt8 → Except ε String)
    (leafText : α → Except ε String) : List (String × Value α) → Except ε (List String)
  | [] => .ok []
  | (k, v) :: rest => do
    let first ← write intText bytesText leafText v
    let more ← writeEntries intText bytesText leafText rest
    return (quote k ++ ": " ++ first) :: more

end

end

end Parley.Json
