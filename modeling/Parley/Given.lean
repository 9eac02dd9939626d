/-
What a caller hands over.

A caller may put records of this library into loosely typed data: a tool among
options, a message among messages, a fault as the reason of a failed call.
`Given` is data with such records at its leaves, and `Given.document` is what is
left of it once only their names matter.
-/
import Parley.Record
import Parley.Chat.Generation

namespace Parley

/-- A record of this library, or a foreign value, in loosely typed data. -/
inductive Leaf where
  | foreign (o : Opaque)
  | tool (t : Tool)
  | function (f : Function)
  | mode (m : ToolMode)
  | fault (f : Fault)
  | content (c : Content)
  | message (m : Message)
  | options (o : Options)
  | generation (g : Generation)
  deriving Inhabited

/-- Data from a caller. -/
abbrev Given := Value Leaf

/-- How a tool names itself. -/
def Tool.label (t : Tool) : String :=
  if t.description == "" then "AIFunction(name=" ++ t.name ++ ")"
  else "AIFunction(name=" ++ t.name ++ ", description=" ++ t.description ++ ")"

namespace Leaf

/-- The name of the kind of a record. -/
def kindName : Leaf → String
  | .foreign o => o.kind
  | .tool _ => "AIFunction"
  | .function _ => "function"
  | .mode _ => "ChatToolMode"
  | .fault f => f.kindName
  | .content c => c.kindName
  | .message _ => "ChatMessage"
  | .options o => o.family.optionsName
  | .generation _ => Generation.title

/-- What is left of a record among plain data. -/
def toOpaque : Leaf → Opaque
  | .foreign o => o
  | .tool t => t.toOpaque
  | .mode m => m.toOpaque
  | .fault f => f.toOpaque
  | .content c => c.toOpaque
  | .message m => m.toOpaque
  | .options o => o.toOpaque
  | .function f => .foreign "function" f.name
  | .generation _ => .foreign Generation.title ""

end Leaf

namespace Given

/-- The name of the kind of a value. -/
def kindName (v : Given) : String :=
  Value.kindName Leaf.kindName v

/-- The data without its records. -/
def document (v : Given) : Document :=
  v.map Leaf.toOpaque

/-- The data as it is shown, with all that is known about a generation. -/
def shown (v : Given) : Document :=
  v.bind fun
    | .generation g => g.shown
    | a => .leaf a.toOpaque

/-- Entries without their records. -/
def documents (entries : List (String × Given)) : Properties :=
  entries.map fun (k, v) => (k, document v)

/-- Data that holds no records, as a caller would give it. -/
def ofDocument (v : Document) : Given :=
  v.map Leaf.foreign

/-- The values that a value runs through, if it can be run through. -/
def items? (v : Given) : Option (List Given) :=
  match v with
  | .list items => some items
  | .tuple items => some items
  | .obj entries => some (entries.map fun (k, _) => .str k)
  | .str s => some (s.toList.map fun c => .str c.toString)
  | .bytes b => some (b.map fun x => .int x.toNat)
  | .leaf a =>
    match a.toOpaque with
    | .record _ _ fields _ =>
      some (fields.map fun (k, field) => .tuple [.str k, field.map Leaf.foreign])
    | _ => none
  | _ => none

/-- The values that a value runs through. -/
def items (v : Given) : Except Fault (List Given) :=
  match items? v with
  | some items => .ok items
  | none => .error (.wrongKind s!"'{kindName v}' object is not iterable")

/-- What `pick` makes of the values in front of the first that it refuses, and that value. -/
def leading {α : Type} (pick : Given → Option α) : List Given → List α × Option Given
  | [] => ([], none)
  | v :: rest =>
    match pick v with
    | some a =>
      let (more, other) := leading pick rest
      (a :: more, other)
    | none => ([], some v)

end Given

end Parley
