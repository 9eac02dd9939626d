/-
Contents in the service's form.

The service takes a message as a list of blocks, each a dictionary with one key
that names its kind.  `Block.ofContents` writes contents as blocks and leaves
out what the service has no block for; `Block.remarks` are the log records about
what was left out.
-/
import Parley.Access
import Parley.Given
import Parley.Wire.Text
import Parley.Log
import Parley.Text.Case

namespace Parley.Block

/-- A text block. -/
def text (s : String) : Document := .obj [("text", .str s)]

/-- The block of a requested call. -/
def toolUse (id name input : Document) : Document :=
  .obj [("toolUse", .obj [("toolUseId", id), ("name", name), ("input", input)])]

/-- The image formats that have a name of their own; all others travel as `png`. -/
def imageFormat (mediaType : Option String) : String :=
  match Text.lower (DataUri.subtype (mediaType.getD "")) with
  | "jpeg" => "jpeg"
  | "jpg" => "jpeg"
  | "gif" => "gif"
  | "webp" => "webp"
  | _ => "png"

/-- The block of an image. -/
def image (format : String) (b : List UInt8) : Document :=
  .obj [("image", .obj [("format", .str format), ("source", .obj [("bytes", .bytes b)])])]

/-- The input of a requested call.  Text that is not JSON counts as no input. -/
def inputOf (c : Call) : Except Fault Properties :=
  match c.parsed with
  | .ok entries => .ok (entries.getD [])
  | .error (.malformedJson _) => .ok []
  | .error f => .error f

/-- Refuse a result that cannot be written.  A dictionary travels as it is. -/
def checkResult (v : Document) : Except Fault Unit :=
  match v with
  | .obj _ => .ok ()
  | v => v.writable

/-- What a result says: a dictionary as it is, a text as it is, anything else as JSON text. -/
def resultItem (v : Document) : Document :=
  match v with
  | .obj entries => .obj [("json", .obj entries)]
  | .str s => text s
  | v => text (jsonText v)

/-- The block of a result. -/
def toolResult (r : Result) : Document :=
  .obj [("toolResult", .obj (
    [("toolUseId", .str r.id), ("content", .list [resultItem r.value])]
      ++ (if r.fault.isSome then [("status", .str "error")] else [])))]

/-- The block of a content, if the service has one for it. -/
def ofContent? (c : Content) : Except Fault (Option Document) :=
  match c.body with
  | .text s => .ok (some (text s))
  | .data d =>
    if d.hasTopLevel "image" then d.bytes.map fun b => some (image (imageFormat d.mediaType) b)
    else .ok none
  | .call call =>
    (inputOf call).map fun input => some (toolUse (.str call.id) (.str call.name) (.obj input))
  | .result r => (checkResult r.value).map fun _ => some (toolResult r)
  | .usage _ => .ok none

/-- Contents as blocks. -/
def ofContents : List Content → Except Fault (List Document)
  | [] => .ok []
  | c :: rest => do
    let block ← ofContent? c
    let more ← ofContents rest
    return block.toList ++ more

/-- The record about a content that is left out. -/
def remark? (c : Content) : Option Record :=
  match c.body with
  | .data d =>
    if d.hasTopLevel "image" then none
    else
      let name := d.mediaType.getD "None"
      some ⟨.debug, .converse, s!"Ignoring unsupported data content media type: {name}"⟩
  | .usage _ => some ⟨.debug, .converse, "Ignoring content of type 'usage' in Bedrock request."⟩
  | _ => none

/-- The records about contents that are left out, up to a content that cannot be written. -/
def remarks : List Content → List Record
  | [] => []
  | c :: rest =>
    match ofContent? c with
    | .ok _ => (remark? c).toList ++ remarks rest
    | .error _ => []

/-! ### Contents among other values -/

/-- The content that a value is. -/
def contentOf? : Given → Option Content
  | .leaf (.content c) => some c
  | _ => none

/-- Values as blocks, if all of them are contents. -/
def ofGiven (vs : List Given) : Except Fault (List Document) := do
  let (cs, other) := Given.leading contentOf? vs
  let blocks ← ofContents cs
  match other with
  | some v => .error (.noAttribute s!"'{Given.kindName v}' object has no attribute 'type'")
  | none => return blocks

/-- The records about the leading contents among values. -/
def remarksOf (vs : List Given) : List Record :=
  remarks (Given.leading contentOf? vs).1

end Parley.Block
