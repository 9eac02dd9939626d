/-
Running the calls that a model requests.

`Call.run` finds the tool of a call, checks the arguments against the tool's
input and calls its function.  Whatever goes wrong on the way becomes the result
of the call, so that the model can be told.  The one exception is a tool whose
input cannot be made out: `execute` runs all calls and then ends with that fault.
-/
import Parley.Tool.Input
import Parley.Tool.Call
import Parley.Intake.Tool
import Parley.Log

namespace Parley

namespace Tool

/-- A record about a tool. -/
def record (level : Level) (text : String) : Record := ⟨level, .tools, text⟩

/-- The record that a tool is called. -/
def invocation (t : Tool) : Record := record .info s!"Invoking tool '{t.name}'"

/-- Call a tool with named arguments, and tell what happens.  Arguments and what comes back have to
be data that can be written out.  Data that is nested too deep to be written is let through, because
how deep that is depends on the surroundings. -/
def invoke (t : Tool) (named : Properties) : List Record × Except Fault Document :=
  match (Value.obj named : Document).writable with
  | .error f => ([t.invocation], .error f)
  | .ok _ =>
    let before :=
      [t.invocation,
        record .debug (s!"Tool '{t.name}' arguments: " ++ (Value.obj named : Document).literal)]
    match t.function.call [] named with
    | .ok v =>
      match v.writable with
      | .ok _ => (before ++ [record .debug (s!"Tool '{t.name}' returned: " ++ v.literal)], .ok v)
      | .error f => (before, .error f)
    | .error f => (before ++ [record .error (s!"Tool '{t.name}' raised: " ++ f.message)], .error f)

/-- The fault of calling a tool with something in place of checked arguments. -/
def wrongArguments (t : Tool) (kind : String) : Fault :=
  .misuse s!"Expected {t.name}_input, got {kind}"

/-- Call a tool with named arguments, of which one may be put in place of checked ones. -/
def invokeNamed (t : Tool) (named : Properties) : List Record × Except Fault Document :=
  if Entries.has named "self" then
    ([], .error (.wrongKind "got multiple values for argument 'self'"))
  else
    match Entries.get? named "arguments" with
    | none | some .null => t.invoke (Entries.drop named "arguments")
    | some v => ([], .error (t.wrongArguments (v.kindName Opaque.kind)))

/-- Arguments without those that are nothing, and with records as the fields that hold something. -/
def present (arguments : Properties) : Properties :=
  Value.unfoldEntries false false arguments

/-- The names of the fields of a tool's input that are not passed on. -/
def excluded (t : Tool) : List String :=
  ((Input.ofTool? t).map Input.excluded).getD []

/-- Call a tool with arguments that have been checked. -/
def invokeChecked (t : Tool) (arguments : Properties) : List Record × Except Fault Document :=
  let passed := arguments.filter fun e => !t.excluded.contains e.1
  t.invoke (present passed)

/-- Call a tool with arguments that have been checked and further named ones, which do not count. -/
def invokeBeside (t : Tool) (arguments others : Properties) : List Record × Except Fault Document :=
  match others.find? fun e => e.1 == "self" || e.1 == "arguments" with
  | some e => ([], .error (.wrongKind s!"got multiple values for argument '{e.1}'"))
  | none => t.invokeChecked arguments

/-- The arguments of a tool, checked against its input. -/
def checked (t : Tool) (arguments : Properties) : Except Fault Properties :=
  match Input.ofTool? t with
  | none => .error .unresolved
  | some input => input.check arguments

/-- The fault of calling a tool with arguments that were checked against another one's input. -/
def wrongInput (t other : Tool) : Fault :=
  t.wrongArguments s!"{other.name}_input"

/-! ### Tools by name -/

/-- The tool that a value is or makes, if it is a tool or a function. -/
def ofGiven? (v : Given) : Except Fault (Option Tool) :=
  match v with
  | .leaf (.tool t) => .ok (some t)
  | .leaf (.function f) => (ofFunction f).map some
  | _ => .ok none

/-- Tools by name; of several with one name the last counts. -/
def byName (tools : List Given) : Except Fault (List (String × Tool)) := do
  let tools ← tools.mapM ofGiven?
  return Entries.ofPairs ((tools.filterMap id).map fun t => (t.name, t))

end Tool

namespace Call

/-- The result of a call that failed. -/
def failed (c : Call) (name : String) (f : Fault) : Result :=
  { id := c.id, name := some name, value := .str ("Error: " ++ f.message), fault := some f }

/-- The result of a call that was turned down before its function ran. -/
def refused (c : Call) (name : String) (f : Fault) : List Record × Except Fault Result :=
  ([Tool.record .warning f.message], .ok (c.failed name f))

/-- The fault of calling a tool that does not exist. -/
def unknownName (name : String) : Fault :=
  .raised .callName s!"No tool or function named '{name}'" none

/-- The fault of calling a tool with arguments that do not fit. -/
def invalidArguments (name : String) (f : Fault) : Fault :=
  .raised .callArguments (s!"Invalid arguments for '{name}': " ++ f.message) none

/-- The checked arguments of a call. -/
def checkedArguments (c : Call) (t : Tool) : Except Fault Properties := do
  let arguments ← c.parsed
  t.checked (arguments.getD [])

/-- Run a call with the tools there are. -/
def run (tools : List (String × Tool)) (c : Call) : List Record × Except Fault Result :=
  match Entries.get? tools c.name with
  | none => c.refused c.name (unknownName c.name)
  | some t =>
    match c.checkedArguments t with
    | .error f =>
      if f.isBadValue then c.refused t.name (invalidArguments t.name f) else ([], .error f)
    | .ok arguments =>
      let (records, outcome) := t.invokeChecked arguments
      (records, .ok (match outcome with
        | .ok v => { id := c.id, name := some t.name, value := v }
        | .error f => c.failed t.name f))

/-- Run calls with the tools there are, in order. -/
def execute (calls : List Call) (tools : List Given) :
    List Record × Except Fault (List Result) :=
  match Tool.byName tools with
  | .error f => ([], .error f)
  | .ok tools =>
    let runs := calls.map (run tools)
    (runs.flatMap Prod.fst, runs.mapM Prod.snd)

end Call

end Parley
