/-
Reading the fields of a record.

A field of a record has a type, and a value given for it is accepted when it can
be taken to be of that type without loss: a whole number may come as a text of
digits, as a float without a fraction or as a truth value.  Each reader below
answers with the value it took, or with the rule that was broken.
-/
import Parley.Issue
import Parley.Number.Reading
import Parley.Text.Encoding

namespace Parley.Check

variable {α β : Type}

/-! ### Text -/

/-- The text that a value is, or that its bytes spell; `bad` is the rule that bytes which spell none
break. -/
def text? (bad : Violation) : Value α → Option (Checked String)
  | .str s => some (.ok s)
  | .bytes b =>
    match Text.Encoding.utf8.decode .refuse b with
    | .ok cs => some (.ok (String.ofList cs))
    | .error _ => some (Checked.fail bad)
  | _ => none

/-- A text. -/
def string (v : Value α) : Checked String :=
  (text? .stringUnicode v).getD (Checked.fail .stringType)

/-- The text of a value that is read further: half of a surrogate pair may not be in it. -/
def spelled? (bad : Violation) (v : Value α) : Option (Checked String) :=
  (text? bad v).map fun t => t.bind fun s =>
    if Text.holdsHalf s then Checked.fail .stringUnicode else .ok s

/-! ### Truth values -/

/-- The words for a truth value. -/
def truth? (s : String) : Option Bool :=
  let word := String.ofList (s.toList.map Char.toLower)
  if ["0", "off", "f", "false", "n", "no"].contains word then some false
  else if ["1", "on", "t", "true", "y", "yes"].contains word then some true
  else none

/-- The truth value that a text spells. -/
def truthOfText (s : String) : Checked Bool :=
  match truth? s with
  | some b => .ok b
  | none => Checked.fail .boolParsing

/-- The truth value of a whole number. -/
def truthOf (n : Int) : Checked Bool :=
  if n = 0 then .ok false else if n = 1 then .ok true else Checked.fail .boolParsing

/-- Whether a whole number fits a word of 64 bits. -/
def fitsWord (n : Int) : Bool :=
  -9223372036854775808 ≤ n && n ≤ 9223372036854775807

/-! ### Numbers -/

/-- Whether underscores stand only between two other characters. -/
def underscoresInside (afterOther : Bool) : List Char → Bool
  | [] => true
  | ['_'] => false
  | c :: rest => if c = '_' then afterOther && underscoresInside false rest
    else underscoresInside true rest

/-- The characters without their underscores, if these stand only between two others. -/
def dropUnderscores (cs : List Char) : Option (List Char) :=
  if underscoresInside false cs then some (cs.filter (· != '_')) else none

/-- Whether a character is an ASCII digit. -/
def isDigit (c : Char) : Bool :=
  '0' ≤ c && c ≤ '9'

/-- The number that ASCII digits spell. -/
def ofDigits (cs : List Char) : Nat :=
  Number.ofDigits (cs.map fun c => c.toNat - '0'.toNat)

/-- Digits without the zeros in front of them; underscores among the zeros count as zeros.  A minus
sign may stand behind the zeros.  `none` for characters that start otherwise. -/
def dropZeros (cs : List Char) : Option (List Char) :=
  match cs with
  | '0' :: rest => some (behind '0' rest)
  | c :: _ => if isDigit c || c = '-' then some cs else none
  | [] => none
where
  /-- The characters behind zeros of which `last` is the last one; that one stays where nothing
  but zeros or a fraction follows. -/
  behind (last : Char) : List Char → List Char
    | [] => [last]
    | c :: rest =>
      if c = '0' || c = '_' then behind c rest
      else if c = '.' then last :: c :: rest
      else c :: rest

/-- The characters without a fraction that is nothing but zeros. -/
def dropFraction (cs : List Char) : List Char :=
  match cs.dropWhile (· != '.') with
  | '.' :: '0' :: zeros => if zeros.all (· == '0') then cs.takeWhile (· != '.') else cs
  | _ => cs

/-- The whole number that digits behind an optional minus sign spell; more than one digit may not
start with zero. -/
def intOfDigits (cs : List Char) : Checked Int :=
  let (negative, body) := match cs with
    | '-' :: rest => (true, rest)
    | cs => (false, cs)
  match body with
  | ['0'] => .ok 0
  | '0' :: _ => Checked.fail .intParsing
  | _ =>
    let ds := body.takeWhile isDigit
    if ds.isEmpty then Checked.fail .intParsing
    else if ds.length > Number.digitLimit then Checked.fail .intParsingSize
    else if ds.length < body.length then Checked.fail .intParsing
    else
      let n : Int := ofDigits ds
      .ok (if negative then -n else n)

/-- The whole number that a text spells.  Margins, a plus sign, zeros in front, underscores between
digits and a fraction of zeros do not matter. -/
def intOfText (s : String) : Checked Int :=
  let body := match Number.trimMargin s.toList with
    | '+' :: '-' :: _ => none
    | '+' :: rest => some rest
    | cs => some cs
  match ((body.bind dropZeros).map dropFraction).bind dropUnderscores with
  | some cs => intOfDigits cs
  | none => Checked.fail .intParsing

/-- The whole number that a double is. -/
def intOfFloat (x : Float) : Checked Int :=
  if x.isNaN || x.isInf then Checked.fail .finiteNumber
  else if x.floor != x then Checked.fail .intFromFloat
  else if x.abs ≥ 9223372036854775808.0 then Checked.fail .intParsingSize
  else .ok x.toInt64.toInt

/-- A truth value. -/
def bool (v : Value α) : Checked Bool :=
  match v with
  | .bool b => .ok b
  | .int n => if fitsWord n then truthOf n else Checked.fail .boolType
  | .float x =>
    match intOfFloat x with
    | .ok n => truthOf n
    | .error _ => Checked.fail .boolType
  | v =>
    match spelled? .boolParsing v with
    | some t => t.bind truthOfText
    | none => Checked.fail .boolType

/-- A whole number. -/
def int (v : Value α) : Checked Int :=
  match v with
  | .int n => .ok n
  | .bool b => .ok (if b then 1 else 0)
  | .float x => intOfFloat x
  | v =>
    match spelled? .intParsing v with
    | some t => t.bind intOfText
    | none => Checked.fail .intType

/-- The size that an unsigned decimal text spells. -/
def sizeOfText (cs : List Char) : Option Float :=
  let word := String.ofList (cs.map Char.toLower)
  if word == "inf" || word == "infinity" then some Number.infinity
  else if word == "nan" then some Number.notANumber
  else
    let whole := cs.takeWhile isDigit
    let rest := cs.dropWhile isDigit
    let (part, rest) := match rest with
      | '.' :: more => (more.takeWhile isDigit, more.dropWhile isDigit)
      | _ => ([], rest)
    let exponent : Option Int := match rest with
      | [] => some 0
      | mark :: more =>
        if mark = 'e' ∨ mark = 'E' then
          let (negative, ds) := Number.takeSign more
          if ds.isEmpty || !ds.all isDigit then none
          else
            let n : Int := ofDigits ds
            some (if negative then -n else n)
        else none
    if whole.isEmpty && part.isEmpty then none
    else exponent.map fun e => Number.ofDecimal (ofDigits (whole ++ part)) (e - part.length)

/-- The double that a text spells.  A text has margins around its number or underscores in it, but
not both. -/
def floatOfText (s : String) : Checked Float :=
  let signed (cs : List Char) : Option Float :=
    let (negative, body) := Number.takeSign cs
    (sizeOfText body).map fun size => if negative then -size else size
  match signed (Number.trimMargin s.toList) with
  | some x => .ok x
  | none =>
    match (dropUnderscores s.toList).bind signed with
    | some x => .ok x
    | none => Checked.fail .floatParsing

/-- A double. -/
def float (v : Value α) : Checked Float :=
  match v with
  | .float x => .ok x
  | .bool b => .ok (if b then 1 else 0)
  | .int n =>
    match Number.ofInt? n with
    | some x => .ok x
    | none => Checked.fail .floatType
  | v =>
    match spelled? .floatParsing v with
    | some t => t.bind floatOfText
    | none => Checked.fail .floatType

/-! ### Bounds -/

/-- A whole number above a bound. -/
def above (bound : Int) (n : Int) : Checked Int :=
  if bound < n then .ok n else Checked.fail .greaterThan

/-- A whole number not below a bound. -/
def atLeast (bound : Int) (n : Int) : Checked Int :=
  if bound ≤ n then .ok n else Checked.fail .greaterThanEqual

/-- A double not below a bound. -/
def floor (bound : Float) (x : Float) : Checked Float :=
  if bound ≤ x then .ok x else Checked.fail .greaterThanEqual

/-- A share of one: the upper bound is checked first. -/
def probability (v : Value α) : Checked Float := do
  let x ← float v
  if !(x ≤ 1.0) then Checked.fail .lessThanEqual else floor 0.0 x

/-- A whole number above zero. -/
def positive (v : Value α) : Checked Int := do
  let n ← int v
  above 0 n

/-! ### Structure -/

/-- A value that may be absent. -/
def optional (check : Value α → Checked β) (v : Value α) : Checked (Option β) :=
  match v with
  | .null => .ok none
  | v => (check v).map some

/-- A dictionary. -/
def obj (v : Value α) : Checked (List (String × Value α)) :=
  match v with
  | .obj entries => .ok entries
  | _ => Checked.fail .objectType

/-- The items of a list or tuple. -/
def items? : Value α → Option (List (Value α))
  | .list items => some items
  | .tuple items => some items
  | _ => none

/-- A list whose items pass a check. -/
def list (check : Value α → Checked β) (v : Value α) : Checked (List β) :=
  match items? v with
  | some items => Checked.items check 0 items
  | none => Checked.fail .listType

/-- One of the given words. -/
def oneOf (words : List String) (v : Value α) : Checked String :=
  match v with
  | .str s => if words.contains s then .ok s else Checked.fail .literal
  | _ => Checked.fail .literal

/-! ### Fields -/

/-- A field with a default, which is not checked. -/
def field (fields : List (String × Value α)) (name : String) (check : Value α → Checked β)
    (default : β) : Checked β :=
  match Entries.get? fields name with
  | some v => (check v).named name
  | none => .ok default

/-- A field that has to be given. -/
def required (fields : List (String × Value α)) (name : String) (check : Value α → Checked β) :
    Checked β :=
  match Entries.get? fields name with
  | some v => (check v).named name
  | none => .error [⟨[.field name], .missing⟩]

end Parley.Check
