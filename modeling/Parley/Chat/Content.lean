/-
What messages are made of.

A content is text, data, a request to call a function, the result of such a call
or a token count.  Each may remember the service's own form of it and carry
properties of its own.
-/
import Parley.Fault
import Parley.Chat.Usage
import Parley.Chat.DataUri
import Parley.Text.Case

namespace Parley

/-- The entries of an open-ended dictionary. -/
abbrev Properties := List (String × Document)

/-- The arguments of a requested call. -/
inductive Arguments where
  | absent
  | text (s : String)
  | entries (e : Properties)
  deriving Inhabited

/-- A request to call a function. -/
structure Call where
  id : String
  name : String
  arguments : Arguments := .absent
  fault : Option Fault := none
  deriving Inhabited

/-- What came of a requested call. -/
structure Result where
  id : String
  name : Option String := none
  value : Document := .null
  fault : Option Fault := none
  deriving Inhabited

/-- Binary data, kept as a data URI. -/
structure Data where
  uri : String
  mediaType : Option String := none
  deriving Inhabited, DecidableEq, Repr

/-- The substance of a content. -/
inductive Body where
  | text (s : String)
  | data (d : Data)
  | call (c : Call)
  | result (r : Result)
  | usage (u : Usage)
  deriving Inhabited

/-- One piece of a message. -/
structure Content where
  body : Body
  raw : Document := .null
  properties : Option Properties := none
  deriving Inhabited

/-- The fault that a flaw in JSON text is. -/
def Fault.ofJson : Json.Flaw → Fault
  | .longNumber n => .badValue (Number.tooManyDigits n)
  | .tooDeep => .tooDeep
  | flaw => .malformedJson flaw

/-- The fault that a flaw in base64 text is. -/
def Fault.ofBase64 : Base64.Flaw → Fault
  | .notAscii => .badValue Base64.Flaw.notAscii.message
  | flaw => .malformedBase64 flaw

namespace Call

/-- The arguments as a dictionary.  A blank text means none, and JSON text of anything but an
object is put under the key `raw`. -/
def parsed (c : Call) : Except Fault (Option Properties) :=
  match c.arguments with
  | .absent => .ok none
  | .entries e => .ok (some e)
  | .text s =>
    if s.toList.all Text.isBlank then .ok (some [])
    else match Json.parse s with
      | .error flaw => .error (Fault.ofJson flaw)
      | .ok (.obj entries) => .ok (some entries)
      | .ok v => .ok (some [("raw", v)])

end Call

namespace Data

/-- Whether the media type has a given part before its slash, in any letter case. -/
def hasTopLevel (d : Data) (top : String) : Bool :=
  match d.mediaType with
  | none => false
  | some "" => false
  | some m => Text.lower (DataUri.topLevel m) == Text.lower top

/-- The bytes of the data. -/
def bytes (d : Data) : Except Fault (List UInt8) :=
  match DataUri.parts? d.uri with
  | none => .error (.badValue "Invalid data URI.")
  | some parts =>
    match Base64.decode parts.data with
    | .ok b => .ok b
    | .error flaw => .error (Fault.ofBase64 flaw)

end Data

namespace Content

/-- A text by itself. -/
def ofText (s : String) : Content := ⟨.text s, .null, none⟩

/-- What came of a call, by itself. -/
def ofResult (r : Result) : Content := ⟨.result r, .null, none⟩

/-- The text of a text content. -/
def text? (c : Content) : Option String :=
  match c.body with
  | .text s => some s
  | _ => none

/-- The requested call of a call content. -/
def call? (c : Content) : Option Call :=
  match c.body with
  | .call call => some call
  | _ => none

/-- The name of the kind of content. -/
def tag (c : Content) : String :=
  match c.body with
  | .text _ => "text"
  | .data _ => "data"
  | .call _ => "function_call"
  | .result _ => "function_result"
  | .usage _ => "usage"

/-- The text of all text contents, in order. -/
def joined (contents : List Content) : String :=
  String.join (contents.filterMap text?)

/-- The requested calls among contents, in order. -/
def calls (contents : List Content) : List Call :=
  contents.filterMap call?

end Content

end Parley
