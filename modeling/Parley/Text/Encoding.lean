/-
Text as bytes.

An encoding has names, and `Encoding.named?` finds it by any of them, however it
is spelled.  `decode` reads bytes in an encoding, and says at which bytes it had to
give up; `decodeStream` does so for a file, which has to begin with the mark that
its encoding asks for.  `detect` tells the
encoding of a JSON text from its first bytes: a byte order mark if there is one,
and otherwise the places of the zero bytes, since a JSON text starts with two
ASCII characters.
-/
import Parley.Text.CodePage
import Parley.Text.Escaped
import Parley.Text.Utf7

namespace Parley.Text

/-- A way to write text as bytes.  `bigEndian` gives the order of the bytes of a unit;
`marked` encodings start with a byte order mark that tells it. -/
inductive Encoding where
  | utf8
  | utf8Marked
  | utf16 (bigEndian : Bool)
  | utf16Marked
  | utf32 (bigEndian : Bool)
  | utf32Marked
  | latin1
  | ascii
  | utf7
  /-- ASCII with escapes; in the raw form for numbered characters alone. -/
  | escaped (raw : Bool)
  | page (p : CodePage)
  /-- An encoding of several bytes a character, of which only the ASCII part is known here. -/
  | wide (name : String)
  deriving DecidableEq, Repr, Inhabited

/-! ### Names -/

/-- The names of the encodings that are no code pages. -/
def encodingNames : List (Encoding × List String) := [
  (.utf8, ["utf_8", "cp65001", "u8", "utf", "utf8", "utf8_ucs2", "utf8_ucs4"]),
  (.utf8Marked, ["utf_8_sig"]),
  (.utf16Marked, ["utf_16", "u16", "utf16"]),
  (.utf16 false, ["utf_16_le", "unicodelittleunmarked", "utf_16le"]),
  (.utf16 true, ["utf_16_be", "unicodebigunmarked", "utf_16be"]),
  (.utf32Marked, ["utf_32", "u32", "utf32"]),
  (.utf32 false, ["utf_32_le", "utf_32le"]),
  (.utf32 true, ["utf_32_be", "utf_32be"]),
  (.latin1, ["latin_1", "8859", "cp819", "csisolatin1", "ibm819", "iso8859", "iso8859_1", "iso_8859_1",
    "iso_8859_1_1987", "iso_ir_100", "l1", "latin", "latin1", "charmap"]),
  (.ascii, ["ascii", "646", "ansi_x3.4_1968", "ansi_x3.4_1986", "ansi_x3_4_1968", "cp367", "csascii",
    "ibm367", "iso646_us", "iso_646.irv_1991", "iso_ir_6", "us", "us_ascii"]),
  (.utf7, ["utf_7", "u7", "unicode_1_1_utf_7", "utf7"]),
  (.escaped false, ["unicode_escape"]),
  (.escaped true, ["raw_unicode_escape"])]

/-- The names of the encodings of several bytes a character. -/
def wideNames : List (List String) := [
  ["big5", "big5_tw", "csbig5", "x_mac_trad_chinese"],
  ["big5hkscs", "big5_hkscs", "hkscs"],
  ["cp932", "932", "ms932", "ms_kanji", "mskanji"],
  ["cp949", "949", "ms949", "uhc"],
  ["cp950", "950", "ms950"],
  ["euc_jis_2004", "euc_jis2004", "eucjis2004", "jisx0213"],
  ["euc_jisx0213", "eucjisx0213"],
  ["euc_jp", "eucjp", "u_jis", "ujis"],
  ["euc_kr", "euckr", "korean", "ks_c_5601", "ks_c_5601_1987", "ks_x_1001", "ksc5601",
    "ksx1001", "x_mac_korean"],
  ["gb18030", "gb18030_2000"],
  ["gb2312", "chinese", "csiso58gb231280", "euc_cn", "euccn", "eucgb2312_cn", "gb2312_1980",
    "gb2312_80", "iso_ir_58", "x_mac_simp_chinese"],
  ["gbk", "936", "cp936", "ms936"],
  ["hz", "hz_gb", "hz_gb_2312", "hzgb"],
  ["iso2022_jp", "csiso2022jp", "iso2022jp", "iso_2022_jp"],
  ["iso2022_jp_1", "iso2022jp_1", "iso_2022_jp_1"],
  ["iso2022_jp_2", "iso2022jp_2", "iso_2022_jp_2"],
  ["iso2022_jp_2004", "iso2022jp_2004", "iso_2022_jp_2004"],
  ["iso2022_jp_3", "iso2022jp_3", "iso_2022_jp_3"],
  ["iso2022_jp_ext", "iso2022jp_ext", "iso_2022_jp_ext"],
  ["iso2022_kr", "csiso2022kr", "iso2022kr", "iso_2022_kr"],
  ["johab", "cp1361", "ms1361"],
  ["shift_jis", "csshiftjis", "s_jis", "shiftjis", "sjis", "x_mac_japanese"],
  ["shift_jis_2004", "s_jis_2004", "shiftjis2004", "sjis_2004"],
  ["shift_jisx0213", "s_jisx0213", "shiftjisx0213", "sjisx0213"]]

/-- A name of an encoding in lower case, with a single underscore for each run of characters that
are no letters, digits or points, and none at either end. -/
def plainName (name : String) : String :=
  "_".intercalate (words [] name.toList)
where
  /-- The words of a name, of which `word` is being read. -/
  words (word : List Char) : List Char → List String
    | [] => finished word
    | c :: rest =>
      if c.isAlphanum || c = '.' then words (c.toLower :: word) rest
      else finished word ++ words [] rest
  /-- A word that has been read backwards, if it has any characters. -/
  finished (word : List Char) : List String :=
    if word.isEmpty then [] else [String.ofList word.reverse]

/-- The encoding that goes by a plain name. -/
def Encoding.known? (name : String) : Option Encoding :=
  ((encodingNames.find? fun e => e.2.contains name).map Prod.fst).or
    (((codePages.find? fun p => p.names.contains name).map Encoding.page).or
      ((wideNames.find? fun ns => ns.contains name).map fun ns => .wide (ns.headD "")))

/-- The encoding with a given name.  A point in a name may stand for an underscore, except in the
first of the names of an encoding. -/
def Encoding.named? (name : String) : Option Encoding :=
  let plain := plainName name
  if name == "locale" then some .utf8
  else if plain.toList.contains '.' then
    let other := String.ofList (plain.toList.map fun c => if c = '.' then '_' else c)
    ((known? plain).or (known? other)).filter fun _ => !isFirst other
  else known? plain
where
  /-- Whether a name is the first of those of an encoding. -/
  isFirst (name : String) : Bool :=
    (encodingNames.any fun e => e.2.head? == some name)
      || (codePages.any fun p => p.names.head? == some name)
      || wideNames.any fun ns => ns.head? == some name

/-! ### Eight-bit units -/

/-- The number of bytes in the character that a byte begins, and the bounds of its second byte. -/
def utf8Lead (b : Nat) : Option (Nat × Nat × Nat) :=
  if b < 0x80 then some (1, 0, 0)
  else if 0xC2 ≤ b ∧ b ≤ 0xDF then some (2, 0x80, 0xBF)
  else if b = 0xE0 then some (3, 0xA0, 0xBF)
  else if b = 0xED then some (3, 0x80, 0x9F)
  else if 0xE1 ≤ b ∧ b ≤ 0xEF then some (3, 0x80, 0xBF)
  else if b = 0xF0 then some (4, 0x90, 0xBF)
  else if 0xF1 ≤ b ∧ b ≤ 0xF3 then some (4, 0x80, 0xBF)
  else if b = 0xF4 then some (4, 0x80, 0x8F)
  else none

/-- How many of the bytes after a lead byte continue its character. -/
def utf8Tail (low high : Nat) : Nat → List UInt8 → Nat
  | 0, _ => 0
  | _, [] => 0
  | n + 1, b :: rest =>
    if low ≤ b.toNat ∧ b.toNat ≤ high then 1 + utf8Tail 0x80 0xBF n rest else 0

/-- Whether half of a surrogate pair is written next, as if it were a character. -/
def utf8Half : List UInt8 → Bool
  | a :: b :: c :: _ => a == 0xED && 0xA0 ≤ b && b ≤ 0xBF && 0x80 ≤ c && c ≤ 0xBF
  | _ => false

/-- The characters of UTF-8 bytes that begin at a position. -/
def decodeUtf8 (halves : Surrogates) : Nat → Nat → List UInt8 → Except Undecodable (List Char)
  | 0, _, _ => .ok []
  | _, _, [] => .ok []
  | fuel + 1, at_, bs@(b :: rest) =>
    match utf8Lead b.toNat with
    | none => .error (undecodable "utf-8" "invalid start byte" at_ [b])
    | some (1, _, _) => do
      let more ← decodeUtf8 halves fuel (at_ + 1) rest
      return Char.ofNat b.toNat :: more
    | some (size, low, high) =>
      let tail := utf8Tail low high (size - 1) rest
      if tail + 1 = size then do
        let lead := b.toNat % Nat.pow 2 (7 - size)
        let n := (rest.take tail).foldl (fun n c => n * 64 + c.toNat % 64) lead
        let more ← decodeUtf8 halves fuel (at_ + size) (rest.drop tail)
        return Char.ofNat n :: more
      else if halves = .keep ∧ utf8Half bs then do
        let unit := (rest.take 2).foldl (fun n c => n * 64 + c.toNat % 64) (b.toNat % 16)
        let more ← decodeUtf8 halves fuel (at_ + 3) (rest.drop 2)
        return half unit :: more
      else if rest.length = tail then
        .error (undecodable "utf-8" "unexpected end of data" at_ bs)
      else .error (undecodable "utf-8" "invalid continuation byte" at_ (bs.take (tail + 1)))

/-! ### Wider units -/

/-- The characters of UTF-16 bytes that begin at a position. -/
def decodeUtf16 (halves : Surrogates) (bigEndian : Bool) :
    Nat → Nat → List UInt8 → Except Undecodable (List Char)
  | 0, _, _ => .ok []
  | _, _, [] => .ok []
  | fuel + 1, at_, bs =>
    let name := if bigEndian then "utf-16-be" else "utf-16-le"
    let unit := bs.take 2
    let rest := bs.drop 2
    let alone (reason : String) (bad : List UInt8) : Except Undecodable (List Char) :=
      match halves with
      | .refuse => .error (undecodable name reason at_ bad)
      | .keep => (decodeUtf16 halves bigEndian fuel (at_ + 2) rest).map
          (half (unitOf bigEndian unit) :: ·)
    if unit.length < 2 then .error (undecodable name "truncated data" at_ unit)
    else
      let n := unitOf bigEndian unit
      if n < 0xD800 ∨ 0xE000 ≤ n then do
        let more ← decodeUtf16 halves bigEndian fuel (at_ + 2) rest
        return Char.ofNat n :: more
      else if 0xDC00 ≤ n then alone "illegal encoding" unit
      else if rest.length < 2 then alone "unexpected end of data" bs
      else
        let low := unitOf bigEndian (rest.take 2)
        if isSecondHalf low then do
          let more ← decodeUtf16 halves bigEndian fuel (at_ + 4) (rest.drop 2)
          return paired n low :: more
        else alone "illegal UTF-16 surrogate" unit

/-- The characters of UTF-32 bytes that begin at a position. -/
def decodeUtf32 (halves : Surrogates) (bigEndian : Bool) :
    Nat → Nat → List UInt8 → Except Undecodable (List Char)
  | 0, _, _ => .ok []
  | _, _, [] => .ok []
  | fuel + 1, at_, bs =>
    let name := if bigEndian then "utf-32-be" else "utf-32-le"
    let unit := bs.take 4
    if unit.length < 4 then .error (undecodable name "truncated data" at_ unit)
    else
      let n := unitOf bigEndian unit
      if isHalf n ∧ halves = .refuse then
        .error (undecodable name
          "code point in surrogate code point range(0xd800, 0xe000)" at_ unit)
      else if 0x110000 ≤ n then
        .error (undecodable name "code point not in range(0x110000)" at_ unit)
      else do
        let more ← decodeUtf32 halves bigEndian fuel (at_ + 4) (bs.drop 4)
        return charOf n :: more

/-! ### Whole texts -/

/-- The characters of the bytes of a code page that begin at a position. -/
def decodePage (p : CodePage) (at_ : Nat) : List UInt8 → Except Undecodable (List Char)
  | [] => .ok []
  | b :: rest =>
    match p.char? b with
    | none => .error (undecodable "charmap" "character maps to <undefined>" at_ [b])
    | some c => do
      let more ← decodePage p (at_ + 1) rest
      return c :: more

/-- The characters that bytes stand for. -/
def Encoding.decode (halves : Surrogates) (e : Encoding) (bs : List UInt8) :
    Except Undecodable (List Char) :=
  let fuel := bs.length + 1
  match e with
  | .utf8 => decodeUtf8 halves fuel 0 bs
  | .utf8Marked =>
    match bs with
    | 0xEF :: 0xBB :: 0xBF :: rest => decodeUtf8 halves fuel 0 rest
    | _ => decodeUtf8 halves fuel 0 bs
  | .utf16 bigEndian => decodeUtf16 halves bigEndian fuel 0 bs
  | .utf16Marked =>
    match bs with
    | 0xFF :: 0xFE :: rest => decodeUtf16 halves false fuel 2 rest
    | 0xFE :: 0xFF :: rest => decodeUtf16 halves true fuel 2 rest
    | _ => decodeUtf16 halves false fuel 0 bs
  | .utf32 bigEndian => decodeUtf32 halves bigEndian fuel 0 bs
  | .utf32Marked =>
    match bs with
    | 0xFF :: 0xFE :: 0 :: 0 :: rest => decodeUtf32 halves false fuel 4 rest
    | 0 :: 0 :: 0xFE :: 0xFF :: rest => decodeUtf32 halves true fuel 4 rest
    | _ => decodeUtf32 halves false fuel 0 bs
  | .latin1 => .ok (bs.map fun b => Char.ofNat b.toNat)
  | .ascii =>
    match bs.findIdx? fun b => b ≥ 0x80 with
    | none => .ok (bs.map fun b => Char.ofNat b.toNat)
    | some i => .error (undecodable "ascii" "ordinal not in range(128)" i [bs.getD i 0])
  | .utf7 => Utf7.decode bs
  | .escaped raw => Escaped.decode raw bs
  | .page p => decodePage p 0 bs
  | .wide name =>
    match bs.findIdx? fun b => b ≥ 0x80 with
    | none => .ok (bs.map fun b => Char.ofNat b.toNat)
    | some i => .error (undecodable name "illegal multibyte sequence" i [bs.getD i 0])

/-- Why a stream of bytes stands for no text. -/
inductive StreamFlaw where
  | undecodable (bytes : Undecodable)
  /-- There is no byte order mark in front of units of so many bits. -/
  | unmarked (bits : Nat)
  deriving DecidableEq, Repr

/-- Whether bytes begin with one of two marks. -/
def hasMark (little big bs : List UInt8) : Bool :=
  little.isPrefixOf bs || big.isPrefixOf bs

/-- The characters of a stream.  A mark that is cut short is no text, and a stream whose encoding
is marked has to have its mark. -/
def Encoding.decodeStream (e : Encoding) (bs : List UInt8) : Except StreamFlaw (List Char) :=
  match e, bs with
  | .utf8Marked, [0xEF] | .utf8Marked, [0xEF, 0xBB] => .ok []
  | _, _ =>
    match e.decode .refuse bs with
    | .error u => .error (.undecodable u)
    | .ok cs =>
      if bs.isEmpty then .ok cs
      else if e = .utf16Marked ∧ !hasMark [0xFF, 0xFE] [0xFE, 0xFF] bs then .error (.unmarked 16)
      else if e = .utf32Marked ∧ !hasMark [0xFF, 0xFE, 0, 0] [0, 0, 0xFE, 0xFF] bs then
        .error (.unmarked 32)
      else .ok cs

/-- The bytes that a text is written as. -/
def Encoding.encode (e : Encoding) (s : String) : List UInt8 :=
  let units16 (bigEndian : Bool) :=
    s.toList.flatMap fun c => (utf16Units c).flatMap (unitBytes bigEndian 2)
  let units32 (bigEndian : Bool) := s.toList.flatMap fun c => unitBytes bigEndian 4 c.toNat
  match e with
  | .utf8 => s.toUTF8.toList
  | .utf8Marked => [0xEF, 0xBB, 0xBF] ++ s.toUTF8.toList
  | .utf16 bigEndian => units16 bigEndian
  | .utf16Marked => [0xFF, 0xFE] ++ units16 false
  | .utf32 bigEndian => units32 bigEndian
  | .utf32Marked => [0xFF, 0xFE, 0, 0] ++ units32 false
  | .latin1 | .ascii | .wide _ => s.toList.map fun c => UInt8.ofNat c.toNat
  | .utf7 => Utf7.encode s.toList
  | .escaped raw => Escaped.encode raw s.toList
  | .page p => s.toList.map fun c => (p.byte? c).getD 0x3F

/-- The encoding of the bytes of a JSON text. -/
def Encoding.detect (bs : List UInt8) : Encoding :=
  match bs with
  | 0 :: 0 :: 0xFE :: 0xFF :: _ => .utf32Marked
  | 0xFF :: 0xFE :: 0 :: 0 :: _ => .utf32Marked
  | 0xFE :: 0xFF :: _ => .utf16Marked
  | 0xFF :: 0xFE :: _ => .utf16Marked
  | 0xEF :: 0xBB :: 0xBF :: _ => .utf8Marked
  | a :: b :: c :: d :: _ =>
    if a = 0 then if b = 0 then .utf32 true else .utf16 true
    else if b = 0 then if c = 0 ∧ d = 0 then .utf32 false else .utf16 false
    else .utf8
  | [a, b] => if a = 0 then .utf16 true else if b = 0 then .utf16 false else .utf8
  | _ => .utf8

end Parley.Text
