/-
Everything that can go wrong.

A `Fault` is a cause: what was invalid, which key was missing, what the service
answered.  `Fault.message` words it.  Faults of this library's own kinds may
carry the fault they were raised for.
-/
import Parley.Issue
import Parley.Text.Literal
import Parley.Text.Base64
import Parley.Text.Encoding
import Parley.Json.Reader

namespace Parley

/-- The stage at which this library gave up. -/
inductive Stage where
  | library
  | service
  | initialization
  | response
  | request
  | content
  | callArguments
  | callName
  deriving DecidableEq, Repr

/-- The ways in which no reply arrives at all. -/
inductive Outage where
  | readTimeout
  | connectTimeout
  | unreachable
  deriving DecidableEq, Repr

/-- A cause of failure. -/
inductive Fault where
  /-- A failure reported by this library, and the fault behind it if there is one. -/
  | raised (stage : Stage) (text : String) (cause : Option Fault)
  /-- A record of the named kind whose fields break rules. -/
  | invalid (title : String) (issues : List Issue)
  /-- A value that an operation cannot take. -/
  | badValue (text : String)
  | malformedJson (flaw : Json.Flaw)
  /-- Data with too many levels of nesting. -/
  | tooDeep
  | undecodable (bytes : Text.Undecodable)
  /-- Bytes without the mark that tells the order of the bytes in units of so many bits. -/
  | unmarked (bits : Nat)
  | malformedBase64 (flaw : Base64.Flaw)
  | missingKey (key : Document)
  /-- A position beyond the end. -/
  | outOfRange (text : String)
  /-- A value of a kind that an operation has no meaning for. -/
  | wrongKind (text : String)
  /-- A call that does not fit what is called. -/
  | misuse (text : String)
  | noAttribute (text : String)
  | overflow (text : String)
  | divisionByZero
  /-- A type that cannot be set up with its limits. -/
  | badSchema
  /-- An input description that refers to a name it does not define. -/
  | unresolved
  | unknownEncoding (name : String)
  /-- A refusal by the service: its reply and the operation it was asked for. -/
  | refused (reply : Document) (operation : String)
  | outage (kind : Outage) (url : String)
  | noCredentials
  | noProfile (name : String)
  | runtime (text : String)
  /-- A failure that a tool reports about itself. -/
  | tool (text : String)
  deriving Inhabited

namespace Fault

/-- The part of a refusal that says what was wrong. -/
def errorPart (reply : Document) (key : String) : Option Document :=
  (reply.get? "Error").bind (·.get? key)

/-- How often a refused request had been tried, if the reply says that this was the most. -/
def retryNote (reply : Document) : String :=
  match reply.get? "ResponseMetadata" with
  | some info =>
    match (info.get? "MaxAttemptsReached").map Value.isSet, info.get? "RetryAttempts" with
    | some true, some n => " (reached max retries: " ++ n.display ++ ")"
    | _, _ => ""
  | none => ""

/-- The wording of a fault. -/
def message : Fault → String
  | .raised _ text _ => text
  | .invalid title issues => Issue.summary title issues
  | .badValue text => text
  | .malformedJson flaw => flaw.message
  | .tooDeep => Json.Flaw.tooDeep.message
  | .undecodable bytes => bytes.message
  | .unmarked bits => s!"UTF-{bits} stream does not start with BOM"
  | .malformedBase64 flaw => flaw.message
  | .missingKey key => key.literal
  | .outOfRange text => text
  | .wrongKind text => text
  | .misuse text => text
  | .noAttribute text => text
  | .overflow text => text
  | .divisionByZero => "division by zero"
  | .badSchema => "Invalid Schema"
  | .unresolved => ""
  | .unknownEncoding name => s!"unknown encoding: {name}"
  | .refused reply operation =>
    let part (key : String) := ((errorPart reply key).map Value.display).getD "Unknown"
    "An error occurred (" ++ part "Code" ++ ") when calling the " ++ operation ++ " operation" ++
      retryNote reply ++ ": " ++ part "Message"
  | .outage .readTimeout url => s!"Read timeout on endpoint URL: \"{url}\""
  | .outage .connectTimeout url => s!"Connect timeout on endpoint URL: \"{url}\""
  | .outage .unreachable url => s!"Could not connect to the endpoint URL: \"{url}\""
  | .noCredentials => "Unable to locate credentials"
  | .noProfile name => s!"The config profile ({name}) could not be found"
  | .runtime text => text
  | .tool text => text

/-- Whether a fault says that a given value was bad, rather than that something failed. -/
def isBadValue : Fault → Bool
  | .invalid _ _ => true
  | .badValue _ => true
  | .malformedJson _ => true
  | .undecodable _ => true
  | .unmarked _ => true
  | .malformedBase64 _ => true
  | _ => false

/-- Whether a fault comes from the machinery that reaches the service. -/
def isConnection : Fault → Bool
  | .outage _ _ => true
  | .noCredentials => true
  | .noProfile _ => true
  | _ => false

end Fault

/-- Give the issues of a record as a fault of the named kind of record. -/
def Checked.orInvalid {α : Type} (title : String) : Checked α → Except Fault α
  | .ok a => .ok a
  | .error issues => .error (.invalid title issues)

end Parley
