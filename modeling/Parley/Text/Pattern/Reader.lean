/-
The notation of patterns.

A pattern is written in the usual notation: classes of characters, repetition,
choice, groups, anchors and flags.  References back to a group and looks around
are no part of it.  Flags hold from where they are set to the end of the group they
are set in, so they are handed from part to part.

Every function here takes its part off the front of a text and gives the rest, or
gives nothing where the text is not well formed.
-/
import Parley.Text.Pattern

namespace Parley.Text.Pattern

/-! ### Flags -/

/-- What the flags in front of a part say. -/
structure Flags where
  /-- Letter case does not matter. -/
  anyCase : Bool := false
  /-- Anchors hold at the ends of lines. -/
  byLine : Bool := false
  /-- A point stands for the end of a line, too. -/
  dotAll : Bool := false
  /-- Blanks and remarks are left out. -/
  spaced : Bool := false
  /-- A carriage return ends a line, too. -/
  returns : Bool := false
  /-- Classes go beyond ASCII. -/
  wide : Bool := true

/-- A flag set or cleared by its letter. -/
def Flags.put? (f : Flags) (on : Bool) : Char → Option Flags
  | 'i' => some { f with anyCase := on }
  | 'm' => some { f with byLine := on }
  | 's' => some { f with dotAll := on }
  | 'x' => some { f with spaced := on }
  | 'R' => some { f with returns := on }
  | 'u' => some { f with wide := on }
  | 'U' => some f
  | _ => none

/-- Flags set or cleared by their letters, each of which may come once; those behind a hyphen are
cleared. -/
def Flags.read? (f : Flags) (letters : List Char) : Option Flags :=
  let set := letters.takeWhile (· ≠ '-')
  let cleared := letters.drop (set.length + 1)
  if letters.contains '-' ∧ cleared.isEmpty ∨ ¬ letters.Nodup then none
  else do
    let f ← set.foldlM (fun f c => f.put? true c) f
    cleared.foldlM (fun f c => f.put? false c) f

/-- A set as the flags want it; `none` for one that goes beyond ASCII where it must not. -/
def Flags.set? (f : Flags) (set : CharSet) : Option CharSet :=
  if f.wide then some (if f.anyCase then set.fold else set)
  else if !set.isNarrow then none
  else some (if f.anyCase then .meet .ascii set.fold else set)

/-- One character as the flags want it. -/
def Flags.one (f : Flags) (c : Char) : CharSet :=
  (f.set? (.one c)).getD (.one c)

/-- The characters behind blanks and remarks, where the flags allow these. -/
def skipSpace (f : Flags) : List Char → List Char
  | [] => []
  | c :: rest =>
    if !f.spaced then c :: rest
    else if CharSet.blank.holds c then skipSpace f rest
    else if c = '#' then skipLine rest
    else c :: rest
where
  /-- The characters behind the end of a line. -/
  skipLine : List Char → List Char
    | [] => []
    | c :: rest => if c = '\n' then skipSpace f rest else skipLine rest

/-! ### Escapes -/

/-- The character that hexadecimal digits stand for. -/
def hexChar? (ds : List Char) : Option Char :=
  if ds.isEmpty then none
  else (ds.mapM hexValue?).bind fun vs =>
    let n := vs.foldl (fun n d => 16 * n + d) 0
    if n.isValidChar then some (Char.ofNat n) else none

/-- A character given by so many hexadecimal digits, or by any count of them in braces. -/
def takeHex (count : Nat) (cs : List Char) : Option (Char × List Char) :=
  match cs with
  | '\x7b' :: rest =>
    match rest.dropWhile (· ≠ '\x7d') with
    | _ :: more => (hexChar? (rest.takeWhile (· ≠ '\x7d'))).map fun c => (c, more)
    | [] => none
  | cs =>
    if cs.length < count then none
    else (hexChar? (cs.take count)).map fun c => (c, cs.drop count)

/-- The character that a letter behind a backslash stands for. -/
def control? : Char → Option Char
  | 'n' => some '\n'
  | 't' => some '\t'
  | 'r' => some '\r'
  | 'a' => some '\x07'
  | 'f' => some '\x0c'
  | 'v' => some '\x0b'
  | _ => none

/-- The set that a letter behind a backslash stands for. -/
def namedSet? (f : Flags) (c : Char) : Option CharSet :=
  let digit : CharSet := if f.wide then .digit else .asciiDigits
  let word : CharSet := if f.wide then .word else .asciiWord
  let blank : CharSet := if f.wide then .blank else .asciiBlank
  match c with
  | 'd' => some digit
  | 'w' => some word
  | 's' => some blank
  | 'D' => some (.without digit)
  | 'W' => some (.without word)
  | 'S' => some (.without blank)
  | _ => none

/-- Whether a character behind a backslash stands for itself. -/
def standsForItself (c : Char) : Bool :=
  c.toNat < 0x80 && !c.isAlphanum && c ≠ '<' && c ≠ '>'

/-- A set by a name, given in braces or as a single letter. -/
def takeProperty (cs : List Char) : Option (CharSet × List Char) :=
  match cs with
  | [] => none
  | '\\' :: _ => none
  | '\x7b' :: rest =>
    let name := rest.takeWhile (· ≠ '\x7d')
    let value (mark : Char) (negated : Bool) : Option CharSet :=
      let property := name.takeWhile (· ≠ mark)
      let given := name.drop (property.length + if negated then 2 else 1)
      (CharSet.valued? property given).map fun set => if negated then .without set else set
    match rest.dropWhile (· ≠ '\x7d') with
    | [] => none
    | _ :: more =>
      let set :=
        if isUnequal name then value '!' true
        else if name.contains ':' then value ':' false
        else if name.contains '=' then value '=' false
        else CharSet.named? name
      set.map fun set => (set, more)
  | c :: rest => (CharSet.named? [c]).map fun set => (set, rest)
where
  /-- Whether a name has the sign for what is not equal. -/
  isUnequal : List Char → Bool
    | '!' :: '=' :: _ => true
    | _ :: rest => isUnequal rest
    | [] => false

/-- What a backslash makes of the characters behind it: one character or a set of them. -/
inductive Escaped where
  | char (c : Char)
  | set (s : CharSet)

/-- What stands behind a backslash, and the rest. -/
def escape? (f : Flags) (cs : List Char) : Option (Escaped × List Char) :=
  match cs with
  | [] => none
  | c :: rest =>
    let hex (count : Nat) : Option (Escaped × List Char) :=
      (takeHex count (skipSpace f rest)).map fun (c, more) => (.char c, more)
    match namedSet? f c, control? c with
    | some set, _ => (f.set? set).map fun set => (.set set, rest)
    | none, some c => some (.char c, rest)
    | none, none =>
      if c = 'x' then
        (hex 2).filter fun (e, _) => f.wide || !(e matches .char _) || isNarrow e
      else if c = 'u' then hex 4
      else if c = 'U' then hex 8
      else if c = 'p' ∨ c = 'P' then
        if !f.wide then none
        else (takeProperty (skipSpace f rest)).map fun (set, more) =>
          let set := if f.anyCase then set.fold else set
          (.set (if c = 'P' then .without set else set), more)
      else if standsForItself c then some (.char c, rest)
      else none
where
  /-- Whether an escape stands for an ASCII character. -/
  isNarrow : Escaped → Bool
    | .char c => c.toNat < 0x80
    | .set _ => false

/-! ### Classes in brackets -/

/-- A set by a name in colons, behind the opening bracket, and the rest. -/
def takeColons (cs : List Char) : Option (CharSet × List Char) :=
  match cs with
  | ':' :: rest =>
    let (negated, rest) := match rest with
      | '^' :: more => (true, more)
      | more => (false, more)
    match rest.dropWhile (· ≠ ':') with
    | ':' :: ']' :: more =>
      (CharSet.inColons? (String.ofList (rest.takeWhile (· ≠ ':')))).map fun set =>
        (if negated then .without set else set, more)
    | _ => none
  | _ => none

/-- One item of a class: an escape, or a character that stands for itself. -/
def takeItem (f : Flags) : List Char → Option (Escaped × List Char)
  | [] => none
  | '\\' :: rest => escape? f rest
  | c :: rest => some (.char c, rest)

/-- A range of characters or one item, as a set. -/
def takeRange (f : Flags) (cs : List Char) : Option (CharSet × List Char) := do
  let (item, rest) ← takeItem f cs
  let single : CharSet := match item with
    | .char c => .one c
    | .set set => set
  let isRange : Bool := match skipSpace f rest with
    | '-' :: more =>
      match skipSpace f more with
      | ']' :: _ | '-' :: _ => false
      | _ => true
    | _ => false
  if isRange then
    let (other, more) ← takeItem f (skipSpace f ((skipSpace f rest).drop 1))
    match item, other with
    | .char first, .char last => if first ≤ last then some (.range first last, more) else none
    | _, _ => none
  else some (single, rest)

/-- The hyphens at the front of a class, which stand for themselves, and then a closing bracket,
which does so if it comes first. -/
def takeFront (f : Flags) (cs : List Char) : CharSet × List Char :=
  let rest := dropHyphens cs cs.length
  if rest.length < (skipSpace f cs).length then (.one '-', rest)
  else match rest with
    | ']' :: more => (.one ']', more)
    | rest => (.empty, rest)
where
  /-- The characters behind hyphens.  The count bounds their number. -/
  dropHyphens (cs : List Char) : Nat → List Char
    | 0 => skipSpace f cs
    | n + 1 =>
      match skipSpace f cs with
      | '-' :: rest => dropHyphens rest n
      | rest => rest

mutual

/-- The items of a class up to its closing bracket, added to those before, and the rest.  What the
signs between classes made of what came before is done last.  The count bounds the items. -/
def takeItems (n : Nat) (f : Flags) (finish : CharSet → CharSet) (before : CharSet)
    (cs : List Char) : Option (CharSet × List Char) :=
  match n with
  | 0 => none
  | n + 1 =>
    let sign (op : CharSet → CharSet → CharSet) (rest : List Char) :=
      takeItems n f (op (finish before)) .empty rest
    match skipSpace f cs with
    | [] => none
    | ']' :: rest => some (finish before, rest)
    | '&' :: '&' :: rest => sign .meet rest
    | '-' :: '-' :: rest => sign .less rest
    | '~' :: '~' :: rest => sign .apart rest
    | '[' :: rest =>
      match takeColons rest with
      | some (set, more) => takeItems n f finish (.union before set) more
      | none =>
        match takeSet n f rest with
        | some (set, more) => takeItems n f finish (.union before set) more
        | none => none
    | cs =>
      match takeRange f cs with
      | some (set, more) => takeItems n f finish (.union before set) more
      | none => none

/-- The class behind an opening bracket, and the rest. -/
def takeSet (n : Nat) (f : Flags) (cs : List Char) : Option (CharSet × List Char) :=
  match n with
  | 0 => none
  | n + 1 =>
    let (negated, cs) := match skipSpace f cs with
      | '^' :: rest => (true, rest)
      | cs => (false, cs)
    let (front, rest) := takeFront f cs
    match takeItems n f id front rest with
    | some (set, more) =>
      (f.set? set).map fun set => (if negated then .without set else set, more)
    | none => none

end

/-! ### Repetition -/

/-- The largest count that can be given. -/
def countLimit : Nat := 4294967295

/-- A count in braces, behind the opening one, and the rest. -/
def takeCount (cs : List Char) : Option ((Nat × Option Nat) × List Char) :=
  let number? (ds : List Char) : Option Nat :=
    let ds := trimChars ds
    if ds.isEmpty || !ds.all Char.isDigit then none
    else
      let n := ds.foldl (fun n c => 10 * n + (c.toNat - '0'.toNat)) 0
      if n ≤ countLimit then some n else none
  let body := cs.takeWhile (· ≠ '\x7d')
  match cs.dropWhile (· ≠ '\x7d') with
  | [] => none
  | _ :: rest =>
    match number? (body.takeWhile (· ≠ ',')), body.dropWhile (· ≠ ',') with
    | some n, [] => some ((n, some n), rest)
    | some n, _ :: high =>
      if (trimChars high).isEmpty then some ((n, none), rest)
      else (number? high).bind fun m => if n ≤ m then some ((n, some m), rest) else none
    | none, _ => none

/-- How often a part is repeated, and the rest; a question mark behind that does not matter.  `none`
for a count that cannot be read. -/
def takeRepetition (f : Flags) (cs : List Char) :
    Option (Option (Nat × Option Nat) × List Char) :=
  let lazy (rest : List Char) : List Char := match rest with
    | '?' :: more => more
    | rest => rest
  match cs with
  | '*' :: rest => some (some (0, none), lazy rest)
  | '+' :: rest => some (some (1, none), lazy rest)
  | '?' :: rest => some (some (0, some 1), lazy rest)
  | '\x7b' :: rest =>
    (takeCount rest).map fun (count, more) => (some count, lazy (skipSpace f more))
  | cs => some (none, cs)

/-- A part with the repetitions behind it, and the rest.  The count bounds the repetitions. -/
def takeRepetitions (f : Flags) (p : Pattern) : Nat → List Char → Option (Pattern × List Char)
  | 0, cs => some (p, cs)
  | n + 1, cs =>
    match takeRepetition f (skipSpace f cs) with
    | none => none
    | some (none, rest) => some (p, rest)
    | some (some (least, most), rest) => takeRepetitions f (.repeated p least most) n rest

/-! ### Parts -/

/-- A name of a group up to the sign that closes it, and the rest. -/
def takeName (cs : List Char) : Option (String × List Char) :=
  let name := cs.takeWhile (· ≠ '>')
  match name, cs.dropWhile (· ≠ '>') with
  | c :: more, _ :: rest =>
    if (c = '_' || isOf Category.allLetters c)
        && more.all (fun c => isWord c || c = '.' || c = '[' || c = ']') then
      some (String.ofList name, rest)
    else none
  | _, _ => none

/-- The kind of the edge of a word, behind its letter: named in braces or any; and the rest. -/
def takeEdge (f : Flags) (cs : List Char) : Option (Edge × List Char) :=
  match cs with
  | '\x7b' :: rest =>
    let isNamed := (skipSpace f rest).head?.any fun c => c.isAlpha || c = '-'
    if !isNamed then some (.border, cs)
    else
      let name := (rest.takeWhile (· ≠ '\x7d')).filter fun c =>
        !(f.spaced && CharSet.blank.holds c)
      match rest.dropWhile (· ≠ '\x7d') with
      | [] => none
      | _ :: more =>
        let kind : Option Edge := match String.ofList name with
          | "start" => some .start
          | "end" => some .finish
          | "start-half" => some .open_
          | "end-half" => some .closed
          | _ => none
        kind.map fun kind => (kind, more)
  | cs => some (.border, cs)

/-- What stands behind a backslash outside of a class, and the rest. -/
def takeEscape (f : Flags) (cs : List Char) : Option (Pattern × List Char) :=
  let edge (kind : Edge) : Pattern :=
    .at_ (.edge (if f.wide then .word else .asciiWord) kind)
  match cs with
  | 'b' :: rest => (takeEdge f rest).map fun (kind, more) => (edge kind, more)
  | 'B' :: rest => some (edge .inner, rest)
  | '<' :: rest => some (edge .start, rest)
  | '>' :: rest => some (edge .finish, rest)
  | 'A' :: rest => some (.at_ .start, rest)
  | 'z' :: rest => some (.at_ .finish, rest)
  | cs =>
    (escape? f cs).map fun
      | (.char c, more) => (.char (f.one c), more)
      | (.set set, more) => (.char set, more)

/-- What a point stands for. -/
def dot? (f : Flags) : Option CharSet :=
  if !f.wide then none
  else some (.without (if f.dotAll then .empty
    else if f.returns then .ofText "\r\n" else .one '\n'))

/-- A sequence with one more part. -/
def join : Pattern → Pattern → Pattern
  | .nothing, p => p
  | before, p => .both before p

mutual

/-- The choices up to the end or a closing parenthesis, and the rest from there, where the parts
before have been read.  The count bounds the parts. -/
def takeChoice (n : Nat) (f : Flags) (before : Pattern) (cs : List Char) :
    Option (Pattern × List Char) :=
  match n with
  | 0 => none
  | n + 1 =>
    match skipSpace f cs with
    | [] => some (before, [])
    | ')' :: rest => some (before, ')' :: rest)
    | '|' :: rest =>
      (takeChoice n f .nothing rest).map fun (other, more) => (.either before other, more)
    | '(' :: '?' :: rest =>
      let named (rest : List Char) : Option (Pattern × List Char) :=
        match takeName rest with
        | some (name, more) => takeGroup n f f (some name) before more
        | none => none
      match rest with
      | 'P' :: '<' :: rest => named rest
      | '<' :: rest => named rest
      | rest =>
        let letters := rest.takeWhile fun c => c ≠ ':' && c ≠ ')'
        match f.read? letters, rest.drop letters.length with
        | some own, ':' :: more => takeGroup n f own none before more
        | some own, ')' :: more =>
          if letters.isEmpty || (takeRepetition own (skipSpace own more)).all (·.1.isSome) then none
          else takeChoice n own before more
        | _, _ => none
    | '(' :: rest => takeGroup n f f none before rest
    | '[' :: rest =>
      match takeSet (2 * rest.length + 2) f rest with
      | some (set, more) => takeMore n f before (.char set) more
      | none => none
    | '.' :: rest =>
      match dot? f with
      | some set => takeMore n f before (.char set) rest
      | none => none
    | '^' :: rest =>
      takeMore n f before (.at_ (if f.byLine then .lineStart f.returns else .start)) rest
    | '$' :: rest =>
      takeMore n f before (.at_ (if f.byLine then .lineFinish f.returns else .finish)) rest
    | '\\' :: rest =>
      match takeEscape f rest with
      | some (p, more) => takeMore n f before p more
      | none => none
    | c :: rest =>
      if c = '*' || c = '+' || c = '?' || c = '\x7b' then none
      else takeMore n f before (.char (f.one c)) rest

/-- The repetitions behind a part, and all that follows it. -/
def takeMore (n : Nat) (f : Flags) (before p : Pattern) (cs : List Char) :
    Option (Pattern × List Char) :=
  match n with
  | 0 => none
  | n + 1 =>
    match takeRepetitions f p cs.length cs with
    | some (p, rest) => takeChoice n f (join before p) rest
    | none => none

/-- The inside of a group with flags of its own, and all that follows it. -/
def takeGroup (n : Nat) (f own : Flags) (name : Option String) (before : Pattern)
    (cs : List Char) : Option (Pattern × List Char) :=
  match n with
  | 0 => none
  | n + 1 =>
    match takeChoice n own .nothing cs with
    | some (p, ')' :: rest) => takeMore n f before (.group name p) rest
    | _ => none

end

/-- The pattern that a text writes; `none` for a text that writes none. -/
def read? (s : String) : Option Pattern :=
  let cs := s.toList
  match takeChoice (4 * cs.length + 4) {} .nothing cs with
  | some (p, []) => if p.isProper then some p else none
  | _ => none

end Parley.Text.Pattern
