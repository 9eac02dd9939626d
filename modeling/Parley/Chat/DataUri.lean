/-
Data URIs.

A data URI is `data:`, a media type, any number of parameters and `base64`, all
separated by semicolons, then a comma and base64 text.  The media type may be
missing.  Neither a media type nor a parameter holds a comma, so everything up
to the first one is the head.
-/
import Parley.Text.Category
import Parley.Text.Split
import Parley.Text.Base64

namespace Parley.DataUri

/-- Whether a character may stand in either half of a media type. -/
def isTypeChar (c : Char) : Bool :=
  Text.isWord c || c == '.' || c == '+' || c == '-'

/-- Whether a character may stand in a parameter. -/
def isParameterChar (c : Char) : Bool :=
  Text.isWord c || c == '=' || c == '-'

/-- Whether a text is two words with a slash between them. -/
def isMediaType (cs : List Char) : Bool :=
  let top := cs.takeWhile (· != '/')
  match cs.dropWhile (· != '/') with
  | _ :: sub => !top.isEmpty && top.all isTypeChar && !sub.isEmpty && sub.all isTypeChar
  | [] => false

/-- A data URI taken apart. -/
structure Parts where
  mediaType : Option String
  data : List Char
  deriving DecidableEq, Repr

/-- The parts of a data URI; `none` for any other text. -/
def parts? (uri : String) : Option Parts :=
  match uri.toList with
  | 'd' :: 'a' :: 't' :: 'a' :: ':' :: rest =>
    match rest.dropWhile (· != ',') with
    | [] => none
    | _ :: data =>
      match Text.splitChars ';' (rest.takeWhile (· != ',')) with
      | [] => none
      | mediaType :: parameters =>
        let fits := (mediaType.isEmpty || isMediaType mediaType) &&
          parameters.getLast? == some "base64".toList &&
          parameters.dropLast.all fun p => !p.isEmpty && p.all isParameterChar
        if fits then
          some ⟨if mediaType.isEmpty then none else some (String.ofList mediaType), data⟩
        else none
  | _ => none

/-- The data URI of some bytes. -/
def ofBytes (mediaType : String) (b : List UInt8) : String :=
  "data:" ++ mediaType ++ ";base64," ++ Base64.text b

/-- The part of a media type before its slash. -/
def topLevel (mediaType : String) : String :=
  String.ofList (mediaType.toList.takeWhile (· != '/'))

/-- The part of a media type after its slash, or all of it if there is none. -/
def subtype (mediaType : String) : String :=
  match mediaType.toList.dropWhile (· != '/') with
  | _ :: sub => String.ofList sub
  | [] => mediaType

end Parley.DataUri
