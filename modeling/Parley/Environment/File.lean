/-
Files of variables.

A file gives variables a text each, a line for a variable:

    export REGION = eu-west-1   # where the service runs
    TOKEN="first line\nsecond line"
    LABEL=${REGION:-nowhere}-label

A text may stand in quotes, and then it may run over several lines.  A line that
cannot be read is passed over.  A text may refer to other variables, those of the
process first, and variables that are set already keep their text.
-/
import Parley.Environment
import Parley.Text.Case

namespace Parley

namespace Environment

/-- A file of variables: its bytes if there is such a file, and the name of their encoding if one
is given. -/
structure File where
  bytes : Option (List UInt8) := none
  encoding : Option String := none
  deriving Inhabited

/-- The name of the encoding that is meant when this one is given. -/
def encodingName (given : Option String) : String :=
  match given with
  | none | some "" => "utf-8"
  | some name => name

/-- A variable that a line names, and the text that it gives it if it gives one. -/
structure Binding where
  name : String
  text : Option String
  deriving DecidableEq, Repr, Inhabited

/-- What a reader of a line makes of characters: a result and the characters after it, or the
characters at which the line stopped making sense. -/
abbrev Read (α : Type) := Except (List Char) (α × List Char)

/-! ### Pieces of a line -/

/-- Whether a character separates the words of a line. -/
def isGap (c : Char) : Bool := Text.isBlank c && c != '\n'

/-- The characters after the gap that they begin with. -/
def dropGap (cs : List Char) : List Char := cs.dropWhile isGap

/-- The characters of the lines after this one. -/
def dropLine (cs : List Char) : List Char := (cs.dropWhile (· != '\n')).drop 1

/-- The characters after a word that says that the variable is for other processes too. -/
def dropExport (cs : List Char) : List Char :=
  if "export".toList.isPrefixOf cs then
    match cs.drop 6 with
    | c :: rest => if isGap c then dropGap rest else cs
    | [] => cs
  else cs

/-- The characters after a remark, if they begin with one. -/
def dropRemark (cs : List Char) : List Char :=
  match dropGap cs with
  | '#' :: rest => rest.dropWhile (· != '\n')
  | _ => cs

/-- Whether a character may stand in a name outside quotes. -/
def isNameChar (c : Char) : Bool := c != '=' && c != '#' && !Text.isBlank c

/-- The name that a line begins with; `none` if it begins with a remark. -/
def readName (cs : List Char) : Except (List Char) (Option String × List Char) :=
  match cs with
  | '#' :: _ => .ok (none, cs)
  | '\'' :: rest =>
    match rest.takeWhile (· != '\''), rest.dropWhile (· != '\'') with
    | c :: name, _ :: rest => .ok (some (String.ofList (c :: name)), rest)
    | _, _ => .error cs
  | _ =>
    match cs.takeWhile isNameChar with
    | [] => .error cs
    | name => .ok (some (String.ofList name), cs.dropWhile isNameChar)

/-! ### Texts -/

/-- The characters before the closing quote and those after it.  A character behind a backslash
does not close. -/
def quoted (mark : Char) : List Char → Option (List Char × List Char)
  | [] => none
  | c :: rest =>
    if c = mark then some ([], rest)
    else if c = '\\' then
      match rest with
      | [] => none
      | d :: rest => (quoted mark rest).map fun (inner, more) => (c :: d :: inner, more)
    else (quoted mark rest).map fun (inner, more) => (c :: inner, more)

/-- What may follow a backslash in single quotes. -/
def singleEscapes : List (Char × Char) := [('\\', '\\'), ('\'', '\'')]

/-- What may follow a backslash in double quotes. -/
def doubleEscapes : List (Char × Char) :=
  [('\\', '\\'), ('\'', '\''), ('"', '"'), ('a', '\x07'), ('b', '\x08'), ('f', '\x0c'),
    ('n', '\n'), ('r', '\r'), ('t', '\t'), ('v', '\x0b')]

/-- Characters with a backslash and what follows it replaced. -/
def unescape (escapes : List (Char × Char)) : List Char → List Char
  | [] => []
  | '\\' :: c :: rest =>
    match escapes.lookup c with
    | some d => d :: unescape escapes rest
    | none => '\\' :: unescape escapes (c :: rest)
  | c :: rest => c :: unescape escapes rest

/-- Characters up to a remark that stands behind a blank. -/
def beforeRemark : List Char → List Char
  | [] => []
  | c :: rest =>
    if Text.isBlank c && (rest.dropWhile Text.isBlank).head? == some '#' then []
    else c :: beforeRemark rest

/-- Characters without the blanks at their end. -/
def trimEnd (cs : List Char) : List Char :=
  (cs.reverse.dropWhile Text.isBlank).reverse

/-- A text in quotes. -/
def readQuoted (mark : Char) (escapes : List (Char × Char)) (cs : List Char) :
    Except (List Char) (String × List Char) :=
  match quoted mark (cs.drop 1) with
  | some (inner, rest) => .ok (String.ofList (unescape escapes inner), rest)
  | none => .error cs

/-- The text that is given to a variable behind its equals sign. -/
def readText (cs : List Char) : Except (List Char) (String × List Char) :=
  match dropGap cs with
  | '\'' :: rest => readQuoted '\'' singleEscapes ('\'' :: rest)
  | '"' :: rest => readQuoted '"' doubleEscapes ('"' :: rest)
  | _ =>
    let line := cs.takeWhile (· != '\n')
    .ok (String.ofList (trimEnd (dropGap (beforeRemark line))), cs.dropWhile (· != '\n'))

/-! ### Lines -/

/-- The characters after the end of a line. -/
def readEnd (cs : List Char) : Except (List Char) (List Char) :=
  match dropGap cs with
  | [] => .ok []
  | '\n' :: rest => .ok rest
  | rest => .error rest

/-- The variable of a line, if it has one. -/
def readLine (cs : List Char) : Except (List Char) (Option Binding × List Char) := do
  let (name, cs) ← readName (dropExport cs)
  let (text, cs) ← match dropGap cs with
    | '=' :: rest => do
      let (text, rest) ← readText rest
      pure (some text, rest)
    | rest => pure (none, rest)
  let rest ← readEnd (dropRemark cs)
  return (name.map fun name => ⟨name, text⟩, rest)

/-- The variables of at most so many lines. -/
def bindingsOf : Nat → List Char → List Binding
  | 0, _ => []
  | fuel + 1, cs =>
    match cs.dropWhile Text.isBlank with
    | [] => []
    | cs =>
      match readLine cs with
      | .ok (binding, rest) => binding.toList ++ bindingsOf fuel rest
      | .error rest => bindingsOf fuel (dropLine rest)

/-- The variables that a text gives, in order. -/
def bindings (cs : List Char) : List Binding :=
  bindingsOf (cs.length + 1) cs

/-! ### References -/

/-- A reference to a variable behind its opening brace, and the characters after it: the name,
and the text that stands in for the variable if one is given. -/
def reference? (cs : List Char) : Option ((String × Option String) × List Char) :=
  let isNamed (c : Char) : Bool := c != '\x7d' && c != ':'
  let name := String.ofList (cs.takeWhile isNamed)
  match cs.dropWhile isNamed with
  | '\x7d' :: rest => some ((name, none), rest)
  | ':' :: '-' :: rest =>
    match rest.dropWhile (· != '\x7d') with
    | _ :: more => some ((name, some (String.ofList (rest.takeWhile (· != '\x7d')))), more)
    | [] => none
  | _ => none

/-- Characters with at most so many references replaced by what they stand for. -/
def expandUpTo (meaning : String → Option String → String) : Nat → List Char → List Char
  | 0, cs => cs
  | _ + 1, [] => []
  | fuel + 1, c :: rest =>
    match c, rest with
    | '$', '\x7b' :: inner =>
      match reference? inner with
      | some ((name, other), more) =>
        (meaning name other).toList ++ expandUpTo meaning fuel more
      | none => c :: expandUpTo meaning fuel rest
    | _, _ => c :: expandUpTo meaning fuel rest

/-- A text with its references replaced by what they stand for. -/
def expand (meaning : String → Option String → String) (s : String) : String :=
  String.ofList (expandUpTo meaning s.length s.toList)

/-- What a reference stands for: a variable of the process, one given earlier in the file, or
the text that stands in for it. -/
def meaning (env : Environment) (earlier : List (String × Option String)) (name : String)
    (other : Option String) : String :=
  match Entries.get? env name, Entries.get? earlier name with
  | some text, _ => text
  | none, some text => text.getD ""
  | none, none => other.getD ""

/-- The variables of a file with their texts, where the last of several lines holds. -/
def resolved (env : Environment) (bs : List Binding) : List (String × Option String) :=
  bs.foldl (fun acc b => Entries.put acc b.name (b.text.map (expand (meaning env acc)))) []

/-! ### Loading -/

/-- Characters with every kind of line end written the same way. -/
def unifyLineEnds : List Char → List Char
  | [] => []
  | '\r' :: '\n' :: rest => '\n' :: unifyLineEnds rest
  | c :: rest => (if c = '\r' then '\n' else c) :: unifyLineEnds rest

/-- Characters without a byte order mark in front of them. -/
def dropMark : List Char → List Char
  | '\uFEFF' :: rest => rest
  | cs => cs

/-- The characters of a file; none where there is no such file. -/
def File.characters (f : File) : Except Fault (List Char) :=
  let name := encodingName f.encoding
  match f.bytes, Text.Encoding.named? name with
  | none, _ => .ok []
  | some _, none =>
    if name.toList.contains '\x00' then .error (.badValue "embedded null character")
    else .error (.unknownEncoding name)
  | some bytes, some e =>
    match e.decodeStream bytes with
    | .ok cs => .ok (dropMark (unifyLineEnds cs))
    | .error (.undecodable u) => .error (.undecodable u)
    | .error (.unmarked bits) => .error (.unmarked bits)

/-- Set variables that are not set, one after another; what is set when one fails stays set. -/
def fill : List (String × Option String) → Environment → Environment × Option Fault
  | [], env => (env, none)
  | (name, text) :: rest, env =>
    match Entries.has env name, text with
    | false, some text =>
      match env.set name text with
      | .ok env => fill rest env
      | .error f => (env, some f)
    | _, _ => fill rest env

/-- The variable that says that files are not to be read. -/
def disablingVariable : String := "PYTHON_DOTENV_DISABLED"

/-- The words for yes in that variable, in any letter case. -/
def disablingWords : List String := ["1", "true", "t", "yes", "y"]

/-- Whether files are not to be read. -/
def isDisabled (env : Environment) : Bool :=
  match Entries.get? env disablingVariable with
  | some word => disablingWords.contains (Text.fold word)
  | none => false

/-- Set the variables of a file that are not set yet. -/
def load (env : Environment) (f : File) : Environment × Option Fault :=
  if isDisabled env then (env, none)
  else match f.characters with
    | .ok cs => fill (resolved env (bindings cs)) env
    | .error fault => (env, some fault)

end Environment

end Parley
