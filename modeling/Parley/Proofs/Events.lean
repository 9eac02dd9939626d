/-
What events carry.

A turn of a model can arrive in events instead of all at once: a text in pieces,
and a call as a start, fragments of its input and a stop.  `Spoken.Carried` says
which events carry which text or call, however it is cut up, and
`Utterance.Streamed` puts those of a whole turn together.  The predicates look up
the keys that matter and leave all others free.

Between two calls the accumulator is empty, so what one block brings is proved by
itself, and the blocks of a turn are put together in the order in which they come.
-/
import Parley.Proofs.Reply
import Parley.Proofs.Run

namespace Parley

/-! ### Looking into events -/

/-- The value at the end of a path of keys. -/
def Value.at? (v : Document) : List String → Option Document
  | [] => some v
  | key :: rest => (v.get? key).bind fun w => w.at? rest

/-- A path with one more key looks further into what is at its end. -/
theorem Value.at?_concat (v : Document) (path : List String) (key : String) :
    v.at? (path ++ [key]) = (v.at? path).bind fun w => w.get? key := by
  induction path generalizing v with
  | nil =>
      show (v.get? key).bind (fun w => some w) = _
      rw [Option.bind_fun_some]
      rfl
  | cons k rest ih =>
      rw [List.cons_append, at?, at?, Option.bind_assoc]
      exact congrArg _ (funext fun w => ih w)

theorem Value.at?_concat_eq_some {v x : Document} (path : List String) {key : String} :
    v.at? (path ++ [key]) = some x ↔ ∃ w, v.at? path = some w ∧ w.get? key = some x := by
  rw [at?_concat, Option.bind_eq_some_iff]

/-- Whether an event has a value other than nothing at a path. -/
def Value.gives (event : Document) (path : List String) : Bool :=
  ((event.at? path).map fun v => !v.isNull).getD false

/-- An event of a kind, with a value at a path inside its body. -/
def EventKind.Holds (kind : EventKind) (event : Document) (path : List String) (x : Document) :
    Prop :=
  event.at? (kind.key :: path) = some x

/-- The index of the block that an event of a kind is about: the first block when it names none. -/
def EventKind.indexOf (kind : EventKind) (event : Document) : Document :=
  (event.at? [kind.key, "contentBlockIndex"]).getD (.int 0)

/-- An event that begins a call in the block with an index.  What it does not give is empty. -/
structure StartsCall (i : Int) (id name : String) (event : Document) : Prop where
  kind : EventKind.ofEvent event = .blockStart
  index : EventKind.indexOf .blockStart event = .int i
  use : ∃ entries, event.at? [EventKind.key .blockStart, "start", "toolUse"] = some (.obj entries) ∧
    entries ≠ [] ∧ (Entries.get? entries "toolUseId").getD (.str "") = .str id ∧
    (Entries.get? entries "name").getD (.str "") = .str name

/-- An event with a fragment of the input of the call in the block with an index. -/
structure ExtendsCall (i : Int) (s : String) (event : Document) : Prop where
  kind : EventKind.ofEvent event = .blockDelta
  index : EventKind.indexOf .blockDelta event = .int i
  use : ∃ entries, event.at? [EventKind.key .blockDelta, "delta", "toolUse"] = some (.obj entries) ∧
    (Entries.get? entries "input").getD (.str "") = .str s

/-- An event that ends the block with an index. -/
structure StopsBlock (i : Int) (event : Document) : Prop where
  kind : EventKind.ofEvent event = .blockStop
  index : EventKind.indexOf .blockStop event = .int i

/-- The event that begins the turn of a model. -/
def IsMessageStart (event : Document) : Prop := EventKind.ofEvent event = .messageStart

/-- An event that begins a block without saying that it is a call. -/
structure IsTextStart (event : Document) : Prop where
  kind : EventKind.ofEvent event = .blockStart
  plain : event.at? [EventKind.key .blockStart, "start", "toolUse"] = none

/-- A piece of a text. -/
structure IsTextPiece (s : String) (event : Document) : Prop where
  kind : EventKind.ofEvent event = .blockDelta
  text : EventKind.Holds .blockDelta event ["delta", "text"] (.str s)
  plain : event.at? [EventKind.key .blockDelta, "delta", "toolUse"] = none

/-- The event that begins a call in the block with the given index. -/
structure IsCallStart (i : Int) (id name : String) (event : Document) : Prop where
  kind : EventKind.ofEvent event = .blockStart
  index : EventKind.Holds .blockStart event ["contentBlockIndex"] (.int i)
  id : EventKind.Holds .blockStart event ["start", "toolUse", "toolUseId"] (.str id)
  name : EventKind.Holds .blockStart event ["start", "toolUse", "name"] (.str name)

/-- A fragment of the input of the call in the block with the given index. -/
structure IsFragment (i : Int) (s : String) (event : Document) : Prop where
  kind : EventKind.ofEvent event = .blockDelta
  index : EventKind.Holds .blockDelta event ["contentBlockIndex"] (.int i)
  input : EventKind.Holds .blockDelta event ["delta", "toolUse", "input"] (.str s)

/-- The event that ends the block with the given index. -/
structure IsBlockStop (i : Int) (event : Document) : Prop where
  kind : EventKind.ofEvent event = .blockStop
  index : EventKind.Holds .blockStop event ["contentBlockIndex"] (.int i)

/-- The event that ends the turn of a model, with a stop word. -/
structure IsMessageStop (word : String) (event : Document) : Prop where
  kind : EventKind.ofEvent event = .messageStop
  word : EventKind.Holds .messageStop event ["stopReason"] (.str word)

/-- The event that reports the token counts. -/
structure IsCountReport (counts : Usage) (event : Document) : Prop where
  kind : EventKind.ofEvent event = .metadata
  counts : ∃ usage, EventKind.Holds .metadata event ["usage"] usage ∧ Wire.usage usage = .ok counts

/-! ### What is known about an event -/

namespace EventKind

theorem get?_payload (kind : EventKind) (event : Document) (key : String) :
    Entries.get? (kind.payload event) key = event.at? [kind.key, key] := by
  unfold payload
  rw [Value.at?]
  cases event.get? kind.key with
  | none => rfl
  | some body =>
      show _ = (body.get? key).bind fun w => some w
      rw [Option.bind_fun_some]
      cases body <;> rfl

theorem index_eq (kind : EventKind) (event : Document) :
    (Entries.get? (kind.payload event) "contentBlockIndex").getD (.int 0) = kind.indexOf event := by
  rw [get?_payload, indexOf]

theorem indexOf_eq {kind : EventKind} {event : Document} {i : Int}
    (h : kind.Holds event ["contentBlockIndex"] (.int i)) : kind.indexOf event = .int i :=
  congrArg (fun v => Option.getD v _) h

end EventKind

namespace Generation

theorem kind_ofEvent (event : Document) :
    (ofEvent event).kind?.getD .unknown = EventKind.ofEvent event := by
  cases event <;> rfl

theorem kind?_ofEvent {event : Document} {kind : EventKind} (h : EventKind.ofEvent event = kind)
    (hkind : kind ≠ .unknown) : (ofEvent event).kind? = some kind := by
  subst h
  cases event
  case null => exact absurd rfl hkind
  all_goals rfl

theorem blockPart_ofEvent (event : Document) (kind : EventKind) (key : String) :
    (ofEvent event).blockPart kind key = event.at? [kind.key, key] := by
  unfold blockPart
  rw [EventKind.get?_payload]
  show Value.at? (if event.isSet then event else .obj []) _ = _
  by_cases hset : event.isSet = true
  · rw [if_pos hset]
  · -- An event that holds nothing has nothing at any path.
    rw [if_neg hset, Value.at?, Value.at?]
    cases hget : event.get? kind.key with
    | none => rfl
    | some body => exact absurd (Value.isSet_of_get? hget) hset

theorem mentionsTool_eq (part : Option Document) : mentionsTool part =
    ((part.bind fun v => v.get? "toolUse").map fun v => !v.isNull).getD false := by
  rcases part with _ | v
  · rfl
  · cases v <;> rfl

theorem mentionsTool_blockPart (event : Document) (kind : EventKind) (key : String) :
    mentionsTool ((ofEvent event).blockPart kind key) = event.gives [kind.key, key, "toolUse"] := by
  rw [mentionsTool_eq, blockPart_ofEvent]
  exact congrArg (fun v => (Option.map _ v).getD false)
    (Value.at?_concat event [kind.key, key] "toolUse").symm

/-- An event about a call is one that begins or continues a block and says what it is about. -/
theorem isToolPart_ofEvent (event : Document) :
    (ofEvent event).isToolPart = match EventKind.ofEvent event with
      | .blockStart => event.gives [EventKind.key .blockStart, "start", "toolUse"]
      | .blockDelta => event.gives [EventKind.key .blockDelta, "delta", "toolUse"]
      | _ => false := by
  unfold isToolPart
  cases hkind : EventKind.ofEvent event with
  | unknown => cases event <;> simp_all [ofEvent, kind?]
  | blockStart =>
      rw [kind?_ofEvent hkind (by decide)]
      exact mentionsTool_blockPart event _ _
  | blockDelta =>
      rw [kind?_ofEvent hkind (by decide)]
      exact mentionsTool_blockPart event _ _
  | _ => rw [kind?_ofEvent hkind (by decide)]

theorem textPart?_ofEvent {event : Document} (h : EventKind.ofEvent event = .blockDelta) :
    (ofEvent event).textPart? =
      (event.at? [EventKind.key .blockDelta, "delta", "text"]).bind Value.asString? := by
  have hconcat := Value.at?_concat event [EventKind.key .blockDelta, "delta"] "text"
  rw [List.cons_append, List.cons_append, List.nil_append] at hconcat
  unfold textPart?
  rw [kind?_ofEvent h (by decide), blockPart_ofEvent, hconcat]
  rcases event.at? [EventKind.key .blockDelta, "delta"] with _ | v
  · rfl
  · cases v <;> rfl

end Generation

/-! ### Events about calls -/

theorem Value.gives_of_at? {event : Document} {path : List String} {entries : Properties}
    (h : event.at? path = some (.obj entries)) : event.gives path = true := by
  unfold gives
  rw [h]
  rfl

/-- A call that is begun with all its parts is begun. -/
theorem IsCallStart.startsCall {i : Int} {id name : String} {event : Document}
    (h : IsCallStart i id name event) : StartsCall i id name event := by
  obtain ⟨use, huse, hid⟩ := (Value.at?_concat_eq_some
    [EventKind.key .blockStart, "start", "toolUse"]).mp h.id
  obtain ⟨use', huse', hname⟩ := (Value.at?_concat_eq_some
    [EventKind.key .blockStart, "start", "toolUse"]).mp h.name
  obtain rfl : use = use' := Option.some.inj (huse.symm.trans huse')
  obtain ⟨entries, rfl, hentry⟩ := Value.get?_some hid
  refine ⟨h.kind, EventKind.indexOf_eq h.index, entries, huse, ?_, by rw [hentry]; rfl,
    congrArg (fun v => Option.getD v _) hname⟩
  rintro rfl
  cases hentry

theorem IsFragment.extendsCall {i : Int} {s : String} {event : Document}
    (h : IsFragment i s event) : ExtendsCall i s event := by
  obtain ⟨use, huse, hinput⟩ := (Value.at?_concat_eq_some
    [EventKind.key .blockDelta, "delta", "toolUse"]).mp h.input
  obtain ⟨entries, rfl, hentry⟩ := Value.get?_some hinput
  exact ⟨h.kind, EventKind.indexOf_eq h.index, entries, huse, by rw [hentry]; rfl⟩

theorem IsBlockStop.stopsBlock {i : Int} {event : Document} (h : IsBlockStop i event) :
    StopsBlock i event :=
  ⟨h.kind, EventKind.indexOf_eq h.index⟩

namespace StartsCall

variable {i j : Int} {id name id' name' : String} {event : Document}

theorem unique (h : StartsCall i id name event) (h' : StartsCall j id' name' event) :
    i = j ∧ id' = id ∧ name' = name := by
  obtain ⟨entries, huse, -, hid, hname⟩ := h.use
  obtain ⟨entries', huse', -, hid', hname'⟩ := h'.use
  obtain rfl : entries = entries' := by simpa using huse.symm.trans huse'
  exact ⟨by simpa using h.index.symm.trans h'.index, by simpa using hid'.symm.trans hid,
    by simpa using hname'.symm.trans hname⟩

theorem isToolPart (h : StartsCall i id name event) :
    (Generation.ofEvent event).isToolPart = true := by
  obtain ⟨entries, huse, -⟩ := h.use
  rw [Generation.isToolPart_ofEvent, h.kind]
  exact Value.gives_of_at? huse

end StartsCall

namespace ExtendsCall

variable {i j : Int} {s s' : String} {event : Document}

theorem unique (h : ExtendsCall i s event) (h' : ExtendsCall j s' event) : i = j ∧ s = s' := by
  obtain ⟨entries, huse, hinput⟩ := h.use
  obtain ⟨entries', huse', hinput'⟩ := h'.use
  obtain rfl : entries = entries' := by simpa using huse.symm.trans huse'
  exact ⟨by simpa using h.index.symm.trans h'.index, by simpa using hinput.symm.trans hinput'⟩

theorem isToolPart (h : ExtendsCall i s event) :
    (Generation.ofEvent event).isToolPart = true := by
  obtain ⟨entries, huse, -⟩ := h.use
  rw [Generation.isToolPart_ofEvent, h.kind]
  exact Value.gives_of_at? huse

end ExtendsCall

theorem StopsBlock.unique {i j : Int} {event : Document} (h : StopsBlock i event)
    (h' : StopsBlock j event) : i = j := by
  simpa using h.index.symm.trans h'.index

/-! ### Turns -/

/-- Events that carry one thing that is said: a text in one or more pieces, or a call whose input is
spelled by its fragments. -/
inductive Spoken.Carried : Spoken → List Document → Prop
  | text {starts pieces stops : List Document} {parts : List String}
      (hstarts : ∀ e ∈ starts, IsTextStart e) (hparts : parts ≠ [])
      (hpieces : List.Forall₂ IsTextPiece parts pieces)
      (hstops : ∀ e ∈ stops, ∃ i, IsBlockStop i e) :
      Carried (.text (String.join parts)) (starts ++ pieces ++ stops)
  | call {i : Int} {id name : String} {input : Properties} {start stop : Document}
      {fragments : List Document} {parts : List String}
      (hstart : IsCallStart i id name start)
      (hfragments : List.Forall₂ (IsFragment i) parts fragments)
      (hstop : IsBlockStop i stop)
      (hinput : Json.parse (String.join parts) = .ok (.obj input)) :
      Carried (.call id name input) (start :: fragments ++ [stop])

/-- One turn of a model: what it says, the word for why it stopped, and the token counts. -/
structure Utterance where
  spoken : List Spoken
  word : String
  counts : Usage := .zero
  /-- Whether its events report the counts. -/
  reports : Bool := true
  deriving Inhabited

namespace Utterance

/-- The counts that the events of a turn report. -/
def reported (u : Utterance) : List Usage := if u.reports then [u.counts] else []

/-- A complete reply that delivers a turn. -/
structure Replied (u : Utterance) (reply : Document) : Prop where
  said : IsReply reply u.spoken
  stopped : reply.get? "stopReason" = some (.str u.word)
  counted : (reply.lookup "usage" .null >>= Wire.usage) = .ok u.counts

/-- Events that deliver a turn: block after block between the start and the stop of the message, and
perhaps a report of the token counts. -/
def Streamed (u : Utterance) (events : List Document) : Prop :=
  ∃ (start stop : Document) (blocks : List (List Document)) (report : Option Document),
    events = start :: blocks.flatten ++ stop :: report.toList ∧ IsMessageStart start ∧
    List.Forall₂ Spoken.Carried u.spoken blocks ∧ IsMessageStop u.word stop ∧
    report.isSome = u.reports ∧ ∀ e ∈ report, IsCountReport u.counts e

end Utterance

/-! ### The plainest events -/

/-- The plainest event of a kind. -/
def EventKind.event (kind : EventKind) (body : Properties) : Document :=
  .obj [(kind.key, .obj body)]

namespace EventKind

/-- The plainest event that begins a call. -/
def callStart (i : Int) (id name : String) : Document :=
  event .blockStart [("start", .obj [("toolUse", .obj [("toolUseId", .str id),
    ("name", .str name)])]), ("contentBlockIndex", .int i)]

/-- The plainest event with a fragment of the input of a call. -/
def callFragment (i : Int) (s : String) : Document :=
  event .blockDelta [("delta", .obj [("toolUse", .obj [("input", .str s)])]),
    ("contentBlockIndex", .int i)]

/-- The plainest event that ends a block. -/
def stopAt (i : Int) : Document := event .blockStop [("contentBlockIndex", .int i)]

theorem startsCall_callStart (i : Int) (id name : String) :
    StartsCall i id name (callStart i id name) :=
  ⟨rfl, rfl, _, rfl, by simp, rfl, rfl⟩

theorem extendsCall_callFragment (i : Int) (s : String) : ExtendsCall i s (callFragment i s) :=
  ⟨rfl, rfl, _, rfl, rfl⟩

theorem stopsBlock_stopAt (i : Int) : StopsBlock i (stopAt i) := ⟨rfl, rfl⟩

end EventKind

namespace Spoken

/-- The plainest events that carry something in the block with an index, cut into parts. -/
def events (i : Int) (parts : List String) : Spoken → List Document
  | .text _ =>
    parts.map fun s => EventKind.event .blockDelta
      [("delta", .obj [("text", .str s)]), ("contentBlockIndex", .int i)]
  | .call id name _ =>
    EventKind.event .blockStart [("start", .obj [("toolUse", .obj [("toolUseId", .str id),
        ("name", .str name)])]), ("contentBlockIndex", .int i)] ::
      parts.map (fun s => EventKind.event .blockDelta
        [("delta", .obj [("toolUse", .obj [("input", .str s)])]), ("contentBlockIndex", .int i)]) ++
      [EventKind.event .blockStop [("contentBlockIndex", .int i)]]

theorem carried_text (i : Int) {s : String} {parts : List String} (hne : parts ≠ [])
    (h : String.join parts = s) : (text s).Carried ((text s).events i parts) := by
  subst h
  have hpieces : List.Forall₂ IsTextPiece parts ((text (String.join parts)).events i parts) := by
    unfold events
    rw [List.forall₂_map_right_iff, List.forall₂_same]
    exact fun s _ => ⟨rfl, rfl, rfl⟩
  have hcarried := Carried.text (show ∀ e ∈ ([] : List Document), IsTextStart e by simp) hne hpieces
    (show ∀ e ∈ ([] : List Document), ∃ i, IsBlockStop i e by simp)
  simpa using hcarried

theorem carried_call (i : Int) (id name : String) {input : Properties} {parts : List String}
    (h : Json.parse (String.join parts) = .ok (.obj input)) :
    (call id name input).Carried ((call id name input).events i parts) := by
  refine .call (i := i) ⟨rfl, rfl, rfl, rfl⟩ ?_ ⟨rfl, rfl⟩ h
  rw [List.forall₂_map_right_iff, List.forall₂_same]
  exact fun s _ => ⟨rfl, rfl, rfl⟩

end Spoken

namespace Utterance

/-- The plainest events of a turn with the given blocks, without a report of the counts. -/
def events (u : Utterance) (blocks : List (List Document)) : List Document :=
  EventKind.event .messageStart [("role", .str "assistant")] ::
    blocks.flatten ++ [EventKind.event .messageStop [("stopReason", .str u.word)]]

theorem streamed_events {u : Utterance} {blocks : List (List Document)}
    (h : List.Forall₂ Spoken.Carried u.spoken blocks) (hreports : u.reports = false) :
    u.Streamed (u.events blocks) :=
  ⟨_, _, blocks, none, rfl, rfl, h, ⟨rfl, rfl⟩, by rw [hreports]; rfl, by simp⟩

end Utterance

end Parley
