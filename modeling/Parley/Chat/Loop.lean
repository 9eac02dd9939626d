/-
Answering a model's calls until it is done.

A model may answer with calls of tools instead of an answer.  `Client.looped`
makes a client that runs these calls, sends the results back and asks again,
until a reply has no calls or there are no tools to run.  The number of rounds is
limited; after the last one the client is asked for a plain answer, with tools
switched off.
-/
import Parley.Session
import Parley.Tool.Execution
import Parley.Intake.Message

namespace Parley

/-- Something that answers messages, at once or in updates.  `stream` hands every update to the
consumer and gives back all of them. -/
structure Client where
  /-- The options that hold when a request says nothing else. -/
  defaults : Option Options
  respond : List Given → List (String × Given) → Run Response
  stream : List Given → List (String × Given) → Run (List Update)

namespace Client

/-- The number of rounds when nobody says otherwise. -/
def defaultRounds : Int := 10

/-- Options that a value is. -/
def optionsOf? (v : Option Given) : Option Options :=
  match v with
  | some (.leaf (.options o)) => some o
  | _ => none

/-- The tools of options, if they name any. -/
def toolsOf (o : Options) : Option (List Given) :=
  o.tools.value?.map fun items => items.map fun
    | .tool t => .leaf (.tool t)
    | .described entries => Given.ofDocument (.obj entries)

/-- The tools to run calls with: those of the request, or else of its options, or else the
client's own.  A single tool counts as a list of one. -/
def tools (c : Client) (arguments : List (String × Given)) : List Given :=
  let direct := (Entries.get? arguments "tools").getD .null
  if direct.isSet then
    match direct with
    | .list items => items
    | v => [v]
  else
    match (optionsOf? (Entries.get? arguments "chat_options")).bind toolsOf with
    | some (t :: rest) => t :: rest
    | _ => (c.defaults.bind toolsOf).getD []

/-- Messages as loosely typed data. -/
def given (ms : List Message) : List Given :=
  ms.map fun m => .leaf (.message m)

/-- Arguments that ask for a plain answer. -/
def plain (arguments : List (String × Given)) : List (String × Given) :=
  Entries.put arguments "tool_choice" (.str "none")

/-- Note that the rounds are over. -/
def noteLimit (limit : Int) : Run Unit :=
  Run.say .warning .tools
    s!"Maximum function call iterations ({limit}) reached, asking for a plain answer."

/-- A reply with the messages of earlier rounds in front. -/
def after (earlier : List Message) (r : Response) : Response :=
  { r with messages := earlier ++ r.messages }

/-- Ask, with up to `n` more rounds, after rounds that brought the messages `earlier`. -/
def respondFrom (c : Client) (limit : Int) (arguments : List (String × Given)) :
    Nat → List Given → List Message → Run Response
  | 0, messages, earlier => do
    noteLimit limit
    let r ← c.respond messages (plain arguments)
    return after earlier r
  | n + 1, messages, earlier => do
    let r ← c.respond messages arguments
    match Message.calls r.messages, c.tools arguments with
    | call :: calls, tool :: tools => do
      let results ← Run.ofLogged (Call.execute (call :: calls) (tool :: tools))
      let said := r.messages ++ [Message.ofResults results]
      respondFrom c limit arguments n (messages ++ given said) (earlier ++ said)
    | _, _ => return after earlier r

/-- The requested calls in updates. -/
def callsOf (updates : List Update) : List Call :=
  updates.flatMap fun u => Content.calls u.contents

/-- The update that brings the results of calls. -/
def resultsUpdate (results : List Result) : Update :=
  { contents := results.map Content.ofResult, role := some .tool }

/-- Ask for updates, with up to `n` more rounds. -/
def streamFrom (c : Client) (limit : Int) (arguments : List (String × Given)) :
    Nat → List Given → Run (List Update)
  | 0, messages => do
    noteLimit limit
    c.stream messages (plain arguments)
  | n + 1, messages => do
    let updates ← c.stream messages arguments
    match callsOf updates with
    | [] => return updates
    | _ :: _ => do
      let said := (Response.ofUpdates updates).messages
      match c.tools arguments with
      | [] => return updates
      | tool :: tools => do
        let results ← Run.ofLogged (Call.execute (Message.calls said) (tool :: tools))
        Run.emit (resultsUpdate results)
        let more ← streamFrom c limit arguments n
          (messages ++ given (said ++ [Message.ofResults results]))
        return updates ++ resultsUpdate results :: more

/-- The fault of naming an argument that a client takes by its position. -/
def misnamed? (arguments : List (String × Given)) : Option Fault :=
  (arguments.find? fun e => e.1 == "messages" || e.1 == "self").map fun e =>
    .wrongKind s!"got multiple values for argument '{e.1}'"

/-- Refuse arguments with a name that is taken. -/
def refuseMisnamed (arguments : List (String × Given)) : Run Unit :=
  match misnamed? arguments with
  | some f => Run.fail f
  | none => return

/-- The client that runs the calls of this one, for a number of rounds. -/
def looped (c : Client) (limit : Int := defaultRounds) : Client where
  defaults := c.defaults
  respond := fun messages arguments => do
    refuseMisnamed arguments
    let messages ← Run.ofExcept (Message.prepare (.list messages))
    respondFrom c limit arguments limit.toNat messages []
  stream := fun messages arguments => do
    refuseMisnamed arguments
    let messages ← Run.ofExcept (Message.prepare (.list messages))
    streamFrom c limit arguments limit.toNat messages

end Client

end Parley
