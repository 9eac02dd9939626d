/-
Replies read from the service's form.

`Blocks.contents` reads the blocks of a message.  A result is given the name of
the function that the last block about a call named.
-/
import Parley.Access
import Parley.Key
import Parley.Intake.Message
import Parley.Log

namespace Parley.Wire

/-! ### Blocks -/

/-- The text items of a result, joined. -/
def joinTexts : List Document → Except Fault String
  | [] => .ok ""
  | item :: rest => do
    if ← item.contains "text" then
      let v ← item.entry "text"
      let more ← joinTexts rest
      let s ← v.expectText
      return s ++ more
    else joinTexts rest

/-- What a block is about. -/
inductive BlockKind where
  | text
  | toolUse
  | toolResult
  | other
  deriving DecidableEq, Repr

/-- What a block is about, by the first of its keys that tells. -/
def blockKind (b : Document) : Except Fault BlockKind := do
  if ← b.contains "text" then return .text
  else if ← b.contains "toolUse" then return .toolUse
  else if ← b.contains "toolResult" then return .toolResult
  else return .other

/-- Fields of a content, read from data. -/
def dataFields (fields : List (String × Document)) : List (String × Given) :=
  fields.map fun (k, v) => (k, Given.ofDocument v)

/-- The content of a text block. -/
def readText (b : Document) : Except Fault Content := do
  let v ← b.entry "text"
  Content.textOfFields (dataFields [("text", v), ("raw_representation", b)])

/-- The name in a block about a call. -/
def calledName (b : Document) : Except Fault Document := do
  let use ← b.entry "toolUse"
  use.lookup "name" .null

/-- The content of a block about a call. -/
def readCall (b : Document) : Except Fault Content := do
  let use ← b.entry "toolUse"
  let id ← use.entry "toolUseId"
  let name ← use.entry "name"
  let input ← use.lookup "input" (.obj [])
  (Content.callOfFields (dataFields [("call_id", id), ("name", name), ("arguments", input),
    ("raw_representation", b)])).orInvalid "FunctionCallContent"

/-- The content of a block about a result, for a function of the given name. -/
def readResult (name : Document) (b : Document) : Except Fault Content := do
  let result ← b.entry "toolResult"
  let content ← result.lookup "content" (.list [])
  let items ← content.sequence
  let joined ← joinTexts items
  let id ← result.entry "toolUseId"
  let rest ← result.lookup "content" .null
  let value : Document := if joined == "" then rest else .str joined
  (Content.resultOfFields (dataFields [("call_id", id), ("name", name), ("result", value),
    ("raw_representation", b)])).orInvalid "FunctionResultContent"

/-- The contents of blocks, `name` being that of the call read last. -/
def readBlocks (name : Document) : List Document → Except Fault (List Content)
  | [] => .ok []
  | b :: rest => do
    match ← blockKind b with
    | .text =>
      let c ← readText b
      let more ← readBlocks name rest
      return c :: more
    | .toolUse =>
      let name ← calledName b
      let c ← readCall b
      let more ← readBlocks name rest
      return c :: more
    | .toolResult =>
      let c ← readResult name b
      let more ← readBlocks name rest
      return c :: more
    | .other =>
      let _ ← b.sequence
      readBlocks name rest

/-- The contents of blocks. -/
def contents (blocks : Document) : Except Fault (List Content) := do
  let blocks ← blocks.sequence
  readBlocks .null blocks

/-- The record about a block that is about nothing known. -/
def blockRemark? (b : Document) : Option Record :=
  match blockKind b, b.sequence with
  | .ok .other, .ok keys =>
    some ⟨.debug, .converse, "Ignoring unsupported Bedrock content block: " ++
      (Value.list keys : Document).literal⟩
  | _, _ => none

/-- The records about blocks that are about nothing known, up to one that cannot be read. -/
def blockRemarks (blocks : Document) : List Record :=
  match blocks.sequence with
  | .error _ => []
  | .ok blocks =>
    let readable := (List.range blocks.length).takeWhile fun i =>
      (readBlocks .null (blocks.take (i + 1))).isOk
    (blocks.take readable.length).filterMap blockRemark?

/-! ### Counts and reasons -/

/-- The token counts of a reply; zero when it reports none. -/
def usage (v : Document) : Except Fault Usage :=
  if !v.isSet then .ok .zero
  else do
    let input ← v.lookup "inputTokens" (.int 0)
    let output ← v.lookup "outputTokens" (.int 0)
    let sum ← input.plus output
    let total ← v.lookup "totalTokens" sum
    (Usage.ofFields (dataFields [("input_token_count", input), ("output_token_count", output),
      ("total_token_count", total)])).orInvalid "UsageDetails"

/-- The reason that a stop word gives; a word of another kind means a plain stop. -/
def finishReason (v : Document) : Except Fault (Option FinishReason) :=
  match v with
  | .null => .ok none
  | .str s => .ok (some (.ofStopWord s))
  | v => (Key.ofValue v).map fun _ => some .stop

end Parley.Wire
