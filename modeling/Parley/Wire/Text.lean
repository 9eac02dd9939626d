/-
Data as JSON text inside requests.

Both `jsonOf` and `jsonBody` refuse a whole number that is too long to be written.  What is no JSON
is written by `jsonOf` as a text, and refused by `jsonBody`.  `jsonText` is the text that `jsonOf`
writes, without the limit on numbers.
-/
import Parley.Fault
import Parley.Json.Printer

namespace Parley

/-- The digits of a whole number, unless there are too many. -/
def wholeText (n : Int) : Except Fault String :=
  if Number.isTooLong n then .error (.badValue Number.tooLong) else .ok (toString n)

/-- The JSON text of data, with anything else shown as a text. -/
def jsonText (v : Document) : String :=
  let shown : Except Empty String :=
    Json.write (fun n => .ok (toString n)) (fun b => .ok (Json.quote (Literal.quoteBytes b)))
      (fun o => .ok (Json.quote o.text)) v
  match shown with
  | .ok s => s

/-- The JSON text of data whose numbers can be written, with anything else shown as a text. -/
def jsonOf (v : Document) : Except Fault String :=
  Json.write wholeText (fun b => .ok (Json.quote (Literal.quoteBytes b)))
    (fun o => .ok (Json.quote o.text)) v

/-- The JSON text of data that is nothing else. -/
def jsonBody (v : Document) : Except Fault String :=
  let refuse (kind : String) : Except Fault String :=
    .error (.wrongKind s!"Object of type {kind} is not JSON serializable")
  Json.write wholeText (fun _ => refuse "bytes") (fun o => refuse o.kind) v

end Parley
