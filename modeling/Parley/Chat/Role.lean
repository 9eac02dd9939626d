/-
Who speaks, and why a reply ended.

Both are open: a service may name a role or a reason that has no constant here.
-/

namespace Parley

/-- The author of a message. -/
structure Role where
  value : String
  deriving DecidableEq, Repr, Inhabited, Hashable

namespace Role

/-- Who sets the terms of a conversation. -/
def system : Role := ⟨"system"⟩
/-- Who asks. -/
def user : Role := ⟨"user"⟩
/-- Who answers. -/
def assistant : Role := ⟨"assistant"⟩
/-- Who reports what came of a call. -/
def tool : Role := ⟨"tool"⟩

/-- The roles with a name of their own. -/
def constants : List (String × Role) :=
  [("SYSTEM", system), ("USER", user), ("ASSISTANT", assistant), ("TOOL", tool)]

end Role

/-- Why a reply ended. -/
structure FinishReason where
  value : String
  deriving DecidableEq, Repr, Inhabited, Hashable

namespace FinishReason

/-- The reply was withheld for its content. -/
def contentFilter : FinishReason := ⟨"content_filter"⟩
/-- The reply ran into the limit on its length. -/
def length : FinishReason := ⟨"length"⟩
/-- The reply came to its end. -/
def stop : FinishReason := ⟨"stop"⟩
/-- The reply asks for calls. -/
def toolCalls : FinishReason := ⟨"tool_calls"⟩

/-- The reasons with a name of their own. -/
def constants : List (String × FinishReason) :=
  [("CONTENT_FILTER", contentFilter), ("LENGTH", length), ("STOP", stop),
    ("TOOL_CALLS", toolCalls)]

/-- The reason behind the service's word for it.  Words it may add later mean a plain stop. -/
def ofStopWord : String → FinishReason
  | "end_turn" => stop
  | "tool_use" => toolCalls
  | "max_tokens" => length
  | "stop_sequence" => stop
  | "guardrail_intervened" => contentFilter
  | "content_filtered" => contentFilter
  | _ => stop

end FinishReason

end Parley
