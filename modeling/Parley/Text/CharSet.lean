/-
Sets of characters.

A set is a range of characters, the characters of some categories, or it is made of
other sets.  Sets go by names: those of the general categories, of a few properties
and scripts, and the names in colons that only mean ASCII characters.
-/
import Parley.Text.Class
import Parley.Text.Category
import Parley.Text.Case

namespace Parley.Text

/-- A set of characters. -/
inductive CharSet where
  | range (first last : Char)
  | kinds (categories : List Category)
  | union (a b : CharSet)
  | meet (a b : CharSet)
  | without (a : CharSet)
  /-- A set in which letter case does not matter. -/
  | folded (a : CharSet)
  deriving DecidableEq, Repr, Inhabited

namespace CharSet

/-- The set with nothing in it. -/
def empty : CharSet := .range '1' '0'

/-- One character. -/
def one (c : Char) : CharSet := .range c c

/-- The sets of a list, together. -/
def all (sets : List CharSet) : CharSet := sets.foldr .union empty

/-- The characters of a text. -/
def ofText (s : String) : CharSet := all (s.toList.map one)

/-- Ranges of code points. -/
def ofRanges (ranges : List (Nat × Nat)) : CharSet :=
  all (ranges.map fun (first, last) => .range (Char.ofNat first) (Char.ofNat last))

/-- What is in the first set and not in the second. -/
def less (a b : CharSet) : CharSet := .meet a (.without b)

/-- What is in one of two sets and not in both. -/
def apart (a b : CharSet) : CharSet := less (.union a b) (.meet a b)

/-- Whether a set holds a character. -/
def holds : CharSet → Char → Bool
  | .range first last, c => first ≤ c && c ≤ last
  | .kinds categories, c => isOf categories c
  | .union a b, c => a.holds c || b.holds c
  | .meet a b, c => a.holds c && b.holds c
  | .without a, c => !a.holds c
  | .folded a, c => (caseForms c).any a.holds

/-- The set with letter case left out of account in each of its parts. -/
def fold : CharSet → CharSet
  | .union a b => .union a.fold b.fold
  | .meet a b => .meet a.fold b.fold
  | .without a => .without a.fold
  | a => .folded a

/-- Whether it can be seen that a set holds ASCII characters alone. -/
def isNarrow : CharSet → Bool
  | .range _ last => last.toNat < 0x80
  | .union a b => a.isNarrow && b.isNarrow
  | .meet a b => a.isNarrow || b.isNarrow
  | .folded a => a.isNarrow
  | _ => false

/-! ### Classes -/

/-- The ASCII characters. -/
def ascii : CharSet := .range '\x00' '\x7f'

/-- The ASCII letters. -/
def asciiLetters : CharSet := .union (.range 'A' 'Z') (.range 'a' 'z')

/-- The ASCII digits. -/
def asciiDigits : CharSet := .range '0' '9'

/-- The ASCII characters of words. -/
def asciiWord : CharSet := all [.one '_', asciiDigits, asciiLetters]

/-- The ASCII blanks. -/
def asciiBlank : CharSet := .ofText "\t\n\x0b\x0c\r "

/-- The digits. -/
def digit : CharSet := .kinds [.digit]

/-- The letters in circles and squares, which are symbols. -/
def encircled : CharSet :=
  .ofRanges [(0x24B6, 0x24E9), (0x1F130, 0x1F149), (0x1F150, 0x1F169), (0x1F170, 0x1F189)]

/-- The characters of words. -/
def word : CharSet :=
  all [asciiWord, .kinds (Category.allLetters ++ Category.allMarks ++
    [.letterNumber, .digit, .connector]), encircled, .range '\u200c' '\u200d']

/-- The blanks. -/
def blank : CharSet :=
  .ofRanges [(0x9, 0xD), (0x20, 0x20), (0x85, 0x85), (0xA0, 0xA0), (0x1680, 0x1680),
    (0x2000, 0x200A), (0x2028, 0x2029), (0x202F, 0x202F), (0x205F, 0x205F), (0x3000, 0x3000)]

/-! ### Names -/

/-- The set with a name in colons. -/
def inColons? : String → Option CharSet
  | "alnum" => some (.union asciiDigits asciiLetters)
  | "alpha" => some asciiLetters
  | "ascii" => some ascii
  | "blank" => some (.ofText "\t ")
  | "cntrl" => some (.union (.range '\x00' '\x1f') (.one '\x7f'))
  | "digit" => some asciiDigits
  | "graph" => some (.range '!' '~')
  | "lower" => some (.range 'a' 'z')
  | "print" => some (.range ' ' '~')
  | "punct" => some (all [.range '!' '/', .range ':' '@', .range '[' '\x60', .range '\x7b' '~'])
  | "space" => some asciiBlank
  | "upper" => some (.range 'A' 'Z')
  | "word" => some asciiWord
  | "xdigit" => some (all [asciiDigits, .range 'A' 'F', .range 'a' 'f'])
  | _ => none

/-- The names of the categories. -/
def categoryNames : List (List String × List Category) := [
  (["lu", "uppercaseletter"], [.upper]),
  (["ll", "lowercaseletter"], [.lower]),
  (["lt", "titlecaseletter"], [.title]),
  (["lc", "casedletter"], [.upper, .lower, .title]),
  (["lm", "modifierletter"], [.modifier]),
  (["lo", "otherletter"], [.otherLetter]),
  (["l", "letter"], Category.allLetters),
  (["mn", "nonspacingmark"], [.accent]),
  (["mc", "spacingmark"], [.spacingMark]),
  (["me", "enclosingmark"], [.enclosingMark]),
  (["m", "mark", "combiningmark"], Category.allMarks),
  (["nd", "decimalnumber", "digit"], [.digit]),
  (["nl", "letternumber"], [.letterNumber]),
  (["no", "othernumber"], [.otherNumber]),
  (["n", "number"], Category.allNumbers),
  (["pc", "connectorpunctuation"], [.connector]),
  (["pd", "dashpunctuation"], [.dash]),
  (["ps", "openpunctuation"], [.opening]),
  (["pe", "closepunctuation"], [.closing]),
  (["pi", "initialpunctuation"], [.openingQuote]),
  (["pf", "finalpunctuation"], [.closingQuote]),
  (["po", "otherpunctuation"], [.otherPunctuation]),
  (["p", "punctuation", "punct"], Category.allPunctuation),
  (["sm", "mathsymbol"], [.math]),
  (["sc", "currencysymbol"], [.currency]),
  (["sk", "modifiersymbol"], [.modifierSymbol]),
  (["so", "othersymbol"], [.otherSymbol]),
  (["s", "symbol"], Category.allSymbols),
  (["zs", "spaceseparator"], [.space]),
  (["zl", "lineseparator"], [.line]),
  (["zp", "paragraphseparator"], [.paragraph]),
  (["z", "separator"], Category.allSeparators),
  (["cc", "control", "cntrl"], [.control]),
  (["cf", "format"], [.format]),
  (["cs", "surrogate"], [.surrogate]),
  (["co", "privateuse"], [.privateUse]),
  (["cn", "unassigned"], [.unassigned]),
  (["c", "other"], Category.allOthers)]

/-- The names of properties. -/
def propertyNames : List (List String × CharSet) := [
  (["alphabetic", "alpha"],
    .union (.kinds (.letterNumber :: Category.allLetters)) encircled),
  (["uppercase", "upper"],
    .union (.kinds [.upper]) (.ofRanges [(0x2160, 0x216F), (0x24B6, 0x24CF), (0x1F130, 0x1F149),
      (0x1F150, 0x1F169), (0x1F170, 0x1F189)])),
  (["lowercase", "lower"],
    .union (.kinds [.lower]) (.ofRanges [(0xAA, 0xAA), (0xBA, 0xBA), (0x2B0, 0x2B8),
      (0x2C0, 0x2C1), (0x2E0, 0x2E4), (0x345, 0x345), (0x37A, 0x37A), (0x1D2C, 0x1D6A),
      (0x1D78, 0x1D78), (0x1D9B, 0x1DBF), (0x2071, 0x2071), (0x207F, 0x207F), (0x2090, 0x209C),
      (0x2170, 0x217F), (0x24D0, 0x24E9), (0x2C7C, 0x2C7D), (0xA69C, 0xA69D), (0xA770, 0xA770),
      (0xA7F8, 0xA7F9), (0xAB5C, 0xAB5F), (0xAB69, 0xAB69)])),
  (["whitespace", "wspace", "space"], blank),
  (["asciihexdigit", "ahex"], all [asciiDigits, .range 'A' 'F', .range 'a' 'f'])]

/-- The names of scripts. -/
def scriptNames : List (List String × CharSet) := [
  (["latin", "latn"], .ofRanges [(0x41, 0x5A), (0x61, 0x7A), (0xAA, 0xAA), (0xBA, 0xBA),
    (0xC0, 0xD6), (0xD8, 0xF6), (0xF8, 0x2B8), (0x2E0, 0x2E4), (0x1D00, 0x1D25),
    (0x1D2C, 0x1D5C), (0x1D62, 0x1D65), (0x1D6B, 0x1D77), (0x1D79, 0x1DBE), (0x1E00, 0x1EFF),
    (0x2071, 0x2071), (0x207F, 0x207F), (0x2090, 0x209C), (0x212A, 0x212B), (0x2132, 0x2132),
    (0x214E, 0x214E), (0x2160, 0x2188), (0x2C60, 0x2C7F), (0xA722, 0xA787), (0xA78B, 0xA7CA),
    (0xA7F2, 0xA7FF), (0xAB30, 0xAB5A), (0xAB5C, 0xAB64), (0xAB66, 0xAB69), (0xFB00, 0xFB06),
    (0xFF21, 0xFF3A), (0xFF41, 0xFF5A)]),
  (["greek", "grek"], .ofRanges [(0x370, 0x373), (0x375, 0x377), (0x37A, 0x37D), (0x37F, 0x37F),
    (0x384, 0x384), (0x386, 0x386), (0x388, 0x38A), (0x38C, 0x38C), (0x38E, 0x3A1),
    (0x3A3, 0x3E1), (0x3F0, 0x3FF), (0x1D26, 0x1D2A), (0x1D5D, 0x1D61), (0x1D66, 0x1D6A),
    (0x1DBF, 0x1DBF), (0x1F00, 0x1F15), (0x1F18, 0x1F1D), (0x1F20, 0x1F45), (0x1F48, 0x1F4D),
    (0x1F50, 0x1F57), (0x1F59, 0x1F59), (0x1F5B, 0x1F5B), (0x1F5D, 0x1F5D), (0x1F5F, 0x1F7D),
    (0x1F80, 0x1FB4), (0x1FB6, 0x1FC4), (0x1FC6, 0x1FD3), (0x1FD6, 0x1FDB), (0x1FDD, 0x1FEF),
    (0x1FF2, 0x1FF4), (0x1FF6, 0x1FFE), (0x2126, 0x2126), (0xAB65, 0xAB65), (0x10140, 0x1018E),
    (0x101A0, 0x101A0), (0x1D200, 0x1D245)]),
  (["cyrillic", "cyrl"], .ofRanges [(0x400, 0x484), (0x487, 0x52F), (0x1C80, 0x1C88),
    (0x1D2B, 0x1D2B), (0x1D78, 0x1D78), (0x2DE0, 0x2DFF), (0xA640, 0xA69F), (0xFE2E, 0xFE2F)]),
  (["hebrew", "hebr"], .ofRanges [(0x591, 0x5C7), (0x5D0, 0x5EA), (0x5EF, 0x5F4),
    (0xFB1D, 0xFB36), (0xFB38, 0xFB3C), (0xFB3E, 0xFB3E), (0xFB40, 0xFB41), (0xFB43, 0xFB44),
    (0xFB46, 0xFB4F)]),
  (["thai"], .ofRanges [(0xE01, 0xE3A), (0xE40, 0xE5B)]),
  (["hangul", "hang"], .ofRanges [(0x1100, 0x11FF), (0x302E, 0x302F), (0x3131, 0x318E),
    (0x3200, 0x321E), (0x3260, 0x327E), (0xA960, 0xA97C), (0xAC00, 0xD7A3), (0xD7B0, 0xD7C6),
    (0xD7CB, 0xD7FB), (0xFFA0, 0xFFBE), (0xFFC2, 0xFFC7), (0xFFCA, 0xFFCF), (0xFFD2, 0xFFD7),
    (0xFFDA, 0xFFDC)]),
  (["hiragana", "hira"], .ofRanges [(0x3041, 0x3096), (0x309D, 0x309F), (0x1B001, 0x1B11F),
    (0x1F200, 0x1F200)]),
  (["katakana", "kana"], .ofRanges [(0x30A1, 0x30FA), (0x30FD, 0x30FF), (0x31F0, 0x31FF),
    (0x32D0, 0x32FE), (0x3300, 0x3357), (0xFF66, 0xFF6F), (0xFF71, 0xFF9D), (0x1B000, 0x1B000)]),
  (["han", "hani"], .ofRanges [(0x2E80, 0x2E99), (0x2E9B, 0x2EF3), (0x2F00, 0x2FD5),
    (0x3005, 0x3005), (0x3007, 0x3007), (0x3021, 0x3029), (0x3038, 0x303B), (0x3400, 0x4DBF),
    (0x4E00, 0x9FFF), (0xF900, 0xFA6D), (0xFA70, 0xFAD9), (0x20000, 0x2A6DF), (0x2A700, 0x2B739),
    (0x2B740, 0x2B81D), (0x2B820, 0x2CEA1), (0x2CEB0, 0x2EBE0), (0x2F800, 0x2FA1D),
    (0x30000, 0x3134A)])]

/-- The entry that goes by a name. -/
def listed? {α : Type} (names : List (List String × α)) (name : String) : Option α :=
  (names.find? fun e => e.1.contains name).map Prod.snd

/-- The set of a category. -/
def ofCategory? (name : String) : Option CharSet :=
  match name with
  | "any" => some (.without empty)
  | "assigned" => some (.without (.kinds [.unassigned]))
  | "ascii" => some ascii
  | name => (listed? categoryNames name).map .kinds

/-- A name with small letters alone, and without the word that says that it is a name. -/
def plainName (name : List Char) : String :=
  let plain (cs : List Char) : List Char :=
    (cs.filter fun c => c.toNat < 0x80 && c ≠ ' ' && c ≠ '_' && c ≠ '-').map Char.toLower
  match name with
  | i :: s :: rest =>
    if i.toLower = 'i' ∧ s.toLower = 's' then
      if plain rest = ['c'] then "isc" else String.ofList (plain rest)
    else String.ofList (plain name)
  | _ => String.ofList (plain name)

/-- The set that goes by a name. -/
def named? (name : List Char) : Option CharSet :=
  let plain := plainName name
  (listed? propertyNames plain).or ((ofCategory? plain).or (listed? scriptNames plain))

/-- The set of the characters that have a value of a property. -/
def valued? (property value : List Char) : Option CharSet :=
  match plainName property with
  | "gc" | "generalcategory" => ofCategory? (plainName value)
  | "sc" | "script" | "scx" | "scriptextensions" => listed? scriptNames (plainName value)
  | _ => none

end CharSet

end Parley.Text
