/-
Calls that arrive in fragments.

A streamed call starts with its name, goes on with pieces of its input as JSON
text, and stops.  Several calls may be under way at once, told apart by the
index of their block.  An `Accumulator` holds the calls under way, and `feed`
takes one event and gives back the call that it completes.
-/
import Parley.Key
import Parley.Wire.Reading
import Parley.Wire.Text
import Parley.Chat.Event

namespace Parley

/-- A call under way. -/
structure Pending where
  id : Document
  name : Document
  /-- The pieces of the input, in order. -/
  fragments : List String := []
  deriving Inhabited

/-- The calls under way, by the index of their block. -/
structure Accumulator where
  blocks : List (Key × Pending) := []
  deriving Inhabited

/-- What comes of an event: the call that it completes, and what is to be noted. -/
structure Fed where
  call : Except Fault (Option Content) := .ok none
  notes : List Record := []

namespace Pending

/-- The input so far. -/
def input (p : Pending) : String := String.join p.fragments

/-- The arguments that the input spells, and the fault if it spells none.  Blank input means no
arguments. -/
def arguments (p : Pending) : Except Fault (Document × Option Fault) :=
  if p.input.toList.all Text.isBlank then .ok (.obj [], none)
  else match Json.parse p.input with
    | .ok v => .ok (v, none)
    | .error flaw =>
      match Fault.ofJson flaw with
      | .malformedJson flaw => .ok (.str p.input, some (.malformedJson flaw))
      | f => .error f

/-- The call that is complete, as a content that remembers the event that completed it. -/
def complete (p : Pending) (event : Document) : Fed :=
  match p.arguments with
  | .error f => { call := .error f }
  | .ok (arguments, fault) =>
    let fields : List (String × Given) :=
      Wire.dataFields [("call_id", p.id), ("name", p.name), ("arguments", arguments),
        ("raw_representation", event)]
      ++ [("exception", (fault.map fun f => Value.leaf (.fault f)).getD .null)]
    { call := ((Content.callOfFields fields).orInvalid "FunctionCallContent").map some
      notes := match fault with
        | some f => [⟨.warning, .converse, "Could not parse streamed input for tool '" ++
            p.name.display ++ "': " ++ f.message⟩]
        | none => [] }

end Pending

namespace Accumulator

/-- Whether a call is under way. -/
def pending (a : Accumulator) : Bool := !a.blocks.isEmpty

/-- The call under way at an index. -/
def get? (a : Accumulator) (i : Key) : Option Pending :=
  (a.blocks.find? fun b => b.1.same i).map Prod.snd

/-- Put a call at an index, in place of one that is under way there. -/
def put (a : Accumulator) (i : Key) (p : Pending) : Accumulator :=
  ⟨(i, p) :: a.blocks.filter fun b => !b.1.same i⟩

/-- Take away the call at an index. -/
def erase (a : Accumulator) (i : Key) : Accumulator :=
  ⟨a.blocks.filter fun b => !b.1.same i⟩

/-- The part of an event's body that is about a tool. -/
def toolPart (body : Properties) (key : String) : Except Fault Document := do
  let part := (Entries.get? body key).getD (.obj [])
  part.lookup "toolUse" .null

/-- A call starts. -/
def start (a : Accumulator) (body : Properties) (index : Document) :
    Except Fault Accumulator := do
  let use ← toolPart body "start"
  if !use.isSet then return a
  else
    let id ← use.lookup "toolUseId" (.str "")
    let name ← use.lookup "name" (.str "")
    let i ← Key.ofValue index
    return a.put i { id, name }

/-- A piece of input arrives. -/
def extend (a : Accumulator) (body : Properties) (index : Document) :
    Except Fault Accumulator := do
  let use ← toolPart body "delta"
  if use.isNull then return a
  else
    let i ← Key.ofValue index
    match a.get? i with
    | none => return a
    | some p =>
      let piece ← use.lookup "input" (.str "")
      let text ← match piece with
        | .str s => .ok s
        | v => jsonBody v
      return a.put i { p with fragments := p.fragments ++ [text] }

/-- Take one event. -/
def feed (a : Accumulator) (event : Document) : Accumulator × Fed :=
  let kind := EventKind.ofEvent event
  let body := kind.payload event
  let index := (Entries.get? body "contentBlockIndex").getD (.int 0)
  let change (r : Except Fault Accumulator) : Accumulator × Fed :=
    match r with
    | .ok a => (a, {})
    | .error f => (a, { call := .error f })
  match kind with
  | .blockStart => change (a.start body index)
  | .blockDelta => change (a.extend body index)
  | .blockStop =>
    match Key.ofValue index with
    | .error f => (a, { call := .error f })
    | .ok i =>
      match a.get? i with
      | none => (a, {})
      | some p => (a.erase i, p.complete event)
  | _ => (a, {})

end Accumulator

end Parley
