/-
Messages, replies and the pieces in which a reply arrives.
-/
import Parley.Chat.Role
import Parley.Chat.Content

namespace Parley

/-- A message of a conversation. -/
structure Message where
  role : Role
  contents : List Content := []
  author : Option String := none
  id : Option String := none
  raw : Document := .null
  properties : Option Properties := none
  deriving Inhabited

namespace Message

/-- A message from the user. -/
def ofText (s : String) : Message := { role := .user, contents := [.ofText s] }

/-- The text contents of a message, joined. -/
def text (m : Message) : String := Content.joined m.contents

/-- The requested calls in messages, in order. -/
def calls (ms : List Message) : List Call :=
  ms.flatMap fun m => Content.calls m.contents

/-- A message with the results of calls. -/
def ofResults (results : List Result) : Message :=
  { role := .tool, contents := results.map Content.ofResult }

end Message

end Parley
