/-
One run against the service.

A run opens clients, sends requests, pauses between attempts, reads event streams,
sets variables and writes log records, and a caller may walk away from a stream
before it ends.  `Session` holds what of this can be seen afterwards, together
with the replies that the service still has to give.  A `Run` is a computation over
it that ends with a value, with a fault, or because its consumer stopped.
-/
import Parley.Log
import Parley.Environment
import Parley.Chat.Response

namespace Parley

/-- One thing that an event stream delivers. -/
inductive Delivery where
  | event (v : Document)
  | failure (f : Fault)
  deriving Inhabited

/-- What a reply may hold beside data: an event stream, with its number if it has to be closed,
or bytes to be read. -/
inductive Attachment where
  | foreign (o : Opaque)
  | events (items : List Delivery) (number : Option Nat)
  | body (b : List UInt8)
  deriving Inhabited

/-- What the service has ready for the next request. -/
inductive Reply where
  | answer (v : Value Attachment)
  /-- An event stream, which may have to be closed. -/
  | stream (items : List Delivery) (closeable : Bool)
  | failure (f : Fault)
  deriving Inhabited

/-- What is left of an attachment in data. -/
def Attachment.toOpaque : Attachment → Opaque
  | .foreign o => o
  | .events _ _ => .foreign "EventStream" ""
  | .body _ => .foreign "StreamingBody" ""

/-- A reply as data. -/
def Attachment.document (v : Value Attachment) : Document :=
  v.map toOpaque

/-- One turn of a client that follows a script. -/
inductive Turn where
  | messages (ms : List Message)
  | updates (us : List Update)
  deriving Inhabited

/-- What a client was asked. -/
structure Question where
  messages : List Given
  arguments : List (String × Given)
  deriving Inhabited

/-- A pair of keys, with the token of a session that lasts for a time. -/
structure Keys where
  id : String
  secret : String
  token : Option String
  deriving DecidableEq, Repr, Inhabited

/-- A step on the way to a client of the service. -/
inductive Opening where
  /-- Open a client in a region, with the keys if there are any. -/
  | client (region : Document) (keys : Option Keys) (timeout : Document)
  /-- Take what a profile holds, in a region. -/
  | profile (name region : Document)
  /-- Open a client with what the profile held. -/
  | profileClient (timeout : Document)
  deriving Inhabited

/-- The kind of such a step. -/
inductive OpeningKind where
  | client
  | profile
  | profileClient
  deriving DecidableEq, Repr, Inhabited

namespace Opening

/-- What sort of opening it is. -/
def kind : Opening → OpeningKind
  | .client _ _ _ => .client
  | .profile _ _ => .profile
  | .profileClient _ => .profileClient

/-- What every client is opened with: the time that it waits for a connection and for a reply, and
that it does not try again by itself. -/
def clientArguments (timeout : Document) : Properties :=
  [("service_name", .str "bedrock-runtime"),
    ("config", .obj [("connect_timeout", timeout), ("read_timeout", timeout),
      ("retries", .obj [("max_attempts", .int 0)])])]

/-- What a pair of keys adds to that. -/
def keyArguments (k : Keys) : Properties :=
  [("aws_access_key_id", .str k.id), ("aws_secret_access_key", .str k.secret),
    ("aws_session_token", (k.token.map .str).getD .null)]

/-- What a step is taken with, by name. -/
def arguments : Opening → Properties
  | .client region keys timeout =>
    clientArguments timeout ++ ("region_name", region) :: (keys.map keyArguments).getD []
  | .profile name region => [("profile_name", name), ("region_name", region)]
  | .profileClient timeout => clientArguments timeout

end Opening

/-- A fault that keeps clients from being opened: at every step, or at those of one kind. -/
structure Obstacle where
  fault : Fault
  at? : Option OpeningKind := none
  deriving Inhabited

/-- What happens in a run to the streams of the service, and to its consumer. -/
inductive Moment where
  /-- A request is sent. -/
  | asked
  /-- The stream with a number is opened. -/
  | opened (number : Nat)
  | closed (number : Nat)
  /-- The consumer stops, when so many records are in the log. -/
  | left (records : Nat)
  deriving DecidableEq, Repr, Inhabited

/-- What can be seen of a run, and the replies still to come. -/
structure Session where
  replies : List Reply := []
  requests : List Document := []
  pauses : List Float := []
  /-- How often each stream that has to be closed was closed, in the order of opening. -/
  closed : List Nat := []
  /-- Requests, openings and closings, and the stop of the consumer, in their order. -/
  moments : List Moment := []
  log : List Record := []
  /-- The updates that the consumer has received. -/
  received : List Update := []
  /-- The number of updates after which the consumer stops. -/
  budget : Option Nat := none
  /-- The state of the streams when the consumer stopped. -/
  closedAtStop : Option (List Nat) := none
  /-- The turns still to come of a client that follows a script. -/
  turns : List Turn := []
  /-- What such a client has been asked. -/
  asked : List Question := []
  environment : Environment := []
  /-- The steps that were taken to open clients. -/
  openings : List Opening := []
  obstacle : Option Obstacle := none
  deriving Inhabited

/-- The session once a request is sent, before there is a reply. -/
def Session.sent (s : Session) (request : Document) : Session :=
  { s with requests := s.requests ++ [request], moments := s.moments ++ [.asked] }

/-- Why a run ended without a value. -/
inductive Halt where
  | fault (f : Fault)
  /-- The consumer stopped reading. -/
  | stopped
  deriving Inhabited

/-- A computation over a session. -/
abbrev Run := ExceptT Halt (StateM Session)

namespace Run

variable {α β : Type}

/-- End with a fault. -/
def fail (f : Fault) : Run α := throw (.fault f)

/-- Go on with a value, or end with the fault in its place. -/
def ofExcept (e : Except Fault α) : Run α :=
  match e with
  | .ok a => pure a
  | .error f => fail f

/-- Write log records. -/
def note (records : List Record) : Run Unit :=
  modify fun s => { s with log := s.log ++ records }

/-- Write one log record. -/
def say (level : Level) (source : Source) (text : String) : Run Unit :=
  note [⟨level, source, text⟩]

/-- Go on with what came of a computation that has written records on its way. -/
def ofLogged (x : List Record × Except Fault α) : Run α := do
  note x.1
  ofExcept x.2

/-- Run a computation and give back how it ended instead of ending with it. -/
def outcome (x : Run α) : Run (Except Halt α) :=
  fun s => match x.run s with
    | (r, s) => (.ok r, s)

/-- Run a computation and then another, however the first one ended. -/
def finallyDo (x : Run α) (after : Run Unit) : Run α := do
  let r ← outcome x
  after
  match r with
  | .ok a => pure a
  | .error h => throw h

/-- Run a computation; a fault is passed to a handler, which ends the run. -/
def onFault (x : Run α) (handler : Fault → Run α) : Run α := do
  match ← outcome x with
  | .ok a => pure a
  | .error (.fault f) => handler f
  | .error .stopped => throw .stopped

/-- The consumer stops. -/
def stop : Run α := do
  modify fun s => { s with
    closedAtStop := some s.closed
    moments := s.moments ++ [.left s.log.length] }
  throw .stopped

/-- Hand an update to the consumer, who may stop at it. -/
def emit (u : Update) : Run Unit := do
  modify fun s => { s with received := s.received ++ [u] }
  let s ← get
  match s.budget with
  | some n => if s.received.length ≥ n then stop
  | none => pure ()

/-- The reply that hands out a stream. -/
def streamReply (items : List Delivery) (number : Option Nat) : Value Attachment :=
  .obj [("stream", .leaf (.events items number))]

/-- Send a request, and take the next reply.  A stream that has to be closed is open from then
on, and is numbered in the order of opening. -/
def send (request : Document) : Run (Value Attachment) := do
  modify fun s => s.sent request
  let s ← get
  match s.replies with
  | [] => fail (.runtime "script exhausted")
  | .failure f :: rest => do
    set { s with replies := rest }
    fail f
  | .answer v :: rest => do
    set { s with replies := rest }
    return v
  | .stream items false :: rest => do
    set { s with replies := rest }
    return streamReply items none
  | .stream items true :: rest => do
    set { s with
      replies := rest
      closed := s.closed ++ [0]
      moments := s.moments ++ [Moment.opened s.closed.length] }
    return streamReply items (some s.closed.length)

/-- Take a step on the way to a client. -/
def openStep (o : Opening) : Run Unit := do
  modify fun s => { s with openings := s.openings ++ [o] }
  let s ← get
  match s.obstacle with
  | none => pure ()
  | some b => if b.at?.all (· == o.kind) then fail b.fault

/-- Set a variable of the process. -/
def setVariable (name text : String) : Run Unit := do
  let s ← get
  let environment ← ofExcept (s.environment.set name text)
  set { s with environment }

/-- Wait. -/
def pause (seconds : Float) : Run Unit :=
  modify fun s => { s with pauses := s.pauses ++ [seconds] }

/-- Close a stream, if it has to be closed. -/
def closeStream (number : Option Nat) : Run Unit :=
  match number with
  | some i => modify fun s => { s with
      closed := s.closed.modify i (· + 1)
      moments := s.moments ++ [.closed i] }
  | none => pure ()

end Run

end Parley
