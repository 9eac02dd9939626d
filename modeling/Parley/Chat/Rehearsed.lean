/-
A client that follows a script.

It answers each request with the next turn of the session's script, and notes
what it was asked.  Code that talks to a client can be tried out with it.
-/
import Parley.Chat.Loop

namespace Parley.Client

/-- Note a question, and take the next turn. -/
def ask (messages : List Given) (arguments : List (String × Given)) : Run Turn := do
  modify fun s => { s with asked := s.asked ++ [⟨messages, arguments⟩] }
  let s ← get
  match s.turns with
  | [] => Run.fail (.runtime "script exhausted")
  | turn :: rest => do
    set { s with turns := rest }
    return turn

/-- Hand updates to the consumer, one by one. -/
def emitAll : List Update → Run Unit
  | [] => return
  | u :: rest => do
    Run.emit u
    emitAll rest

/-- The client that follows the script of its session. -/
def rehearsed (defaults : Option Options) : Client where
  defaults := defaults
  respond := fun messages arguments => do
    match ← ask messages arguments with
    | .messages ms => return { messages := ms }
    | .updates _ => Run.fail (.missingKey (.str "messages"))
  stream := fun messages arguments => do
    match ← ask messages arguments with
    | .updates us => do
      emitAll us
      return us
    | .messages _ => Run.fail (.missingKey (.str "updates"))

end Parley.Client
