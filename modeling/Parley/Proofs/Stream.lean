/-
Reading a turn in events.

`ChatModel.Brings` says what events come to: the updates that the consumer gets,
and the calls that are under way before and after.  It holds of events one behind
the other when it holds of each, so a turn is read block by block.  What a block
brings are the pieces of one thing that is said, and `Utterance.Arrives` collects
those of a turn.
-/
import Parley.Proofs.Fragments
import Parley.Proofs.Service

namespace Parley

/-- The session after the consumer has received updates. -/
def Session.receive (s : Session) (us : List Update) : Session :=
  { s with received := s.received ++ us }

theorem Run.emit_receive {s : Session} (h : s.budget = none) (u : Update) :
    emit u s = (.ok (), s.receive [u]) :=
  emit_apply h u

/-! ### One event -/

namespace ChatModel

/-- Events that bring updates when the calls `a` are under way, and leave `b` under way. -/
def Brings (id : String) (a : Accumulator) (events : List Document) (us : List Update)
    (b : Accumulator) : Prop :=
  ∀ (r : Reading) (s : Session) (rest : List Delivery), r.calls = a → s.budget = none →
    Endpoint.readAll (step id) (events.map .event ++ rest) r s =
      Endpoint.readAll (step id) rest ⟨b, r.updates ++ us⟩ (s.receive us)

variable {id : String} {a b c : Accumulator} {event : Document} {us vs : List Update}

theorem Brings.nil (id : String) (a : Accumulator) : Brings id a [] [] a := by
  intro r s rest hr _
  subst hr
  simp [Session.receive]

theorem Brings.append {events more : List Document} (h : Brings id a events us b)
    (h' : Brings id b more vs c) : Brings id a (events ++ more) (us ++ vs) c := by
  intro r s rest hr hs
  rw [List.map_append, List.append_assoc, h r s _ hr hs, h' _ (s.receive us) _ rfl hs]
  simp [Session.receive]

theorem Brings.of_step
    (h : ∀ (r : Reading) (s : Session), r.calls = a → s.budget = none →
      step id r event s = (.ok ⟨b, r.updates ++ us⟩, s.receive us)) :
    Brings id a [event] us b := by
  intro r s rest hr hs
  rw [List.map_cons, List.map_nil, List.singleton_append, Endpoint.readAll,
    Run.bind_apply_ok (h r s hr hs)]

/-! ### Events that are handed on -/

theorem kind_withMessage (g : Generation) : g.withMessage.kind? = g.kind? := by
  unfold Generation.withMessage
  split
  · rfl
  · split <;> rfl

theorem withMessage_stopWord (g : Generation) : g.withMessage.stopWord = g.stopWord := by
  unfold Generation.withMessage
  split
  · rfl
  · split <;> rfl

theorem stopWord_ofEvent (h : EventKind.ofEvent event = .messageStop) :
    (Generation.ofEvent event).stopWord =
      (event.at? [EventKind.key .messageStop, "stopReason"]).getD .null := by
  unfold Generation.ofEvent
  rw [h]
  dsimp only
  rw [EventKind.get?_payload]

theorem shownContents_text {s : String} (h : EventKind.ofEvent event = .blockDelta)
    (htext : EventKind.Holds .blockDelta event ["delta", "text"] (.str s)) :
    shownContents (Generation.ofEvent event).withMessage =
      .ok [⟨.text s, Block.text s, none⟩] := by
  have hpart : (Generation.ofEvent event).textPart? = some s := by
    rw [Generation.textPart?_ofEvent h]
    exact congrArg (fun v => Option.bind v Value.asString?) htext
  have hmessage : (Generation.ofEvent event).withMessage.message.document =
      Generation.messageOf (.str "assistant") [Block.text s] := by
    unfold Generation.withMessage
    rw [Generation.kind?_ofEvent h (by decide), hpart]
    rfl
  unfold shownContents
  rw [hmessage]
  rfl

theorem emit_receive {s : Session} (hs : s.budget = none) (r : Reading) (u : Update) :
    r.emit u s = (.ok { r with updates := r.updates ++ [u] }, s.receive [u]) := by
  unfold Reading.emit
  rw [Run.bind_apply_ok (Run.emit_receive hs u)]
  rfl

/-- An event that is about no call brings its own update. -/
theorem handOn_receive {s : Session} (hs : s.budget = none) {kind : EventKind} {u : Update}
    (hkind : EventKind.ofEvent event = kind)
    (hu : updateFor id (Generation.ofEvent event).withMessage kind event = ([], .ok u))
    (r : Reading) :
    handOn id r (Generation.ofEvent event) event s =
      (.ok { r with updates := r.updates ++ [u] }, s.receive [u]) := by
  unfold handOn
  rw [kind_withMessage, Generation.kind_ofEvent, hkind, hu,
    Run.bind_apply_ok (Run.ofLogged_apply_ok rfl s), List.append_nil]
  exact emit_receive hs r u

theorem step_handOn {s : Session} (hs : s.budget = none) {kind : EventKind} {u : Update}
    (hkind : EventKind.ofEvent event = kind) (hfails : kind.isFailure = false)
    (hstop : kind ≠ .blockStop) (hpart : (Generation.ofEvent event).isToolPart = false)
    (hu : updateFor id (Generation.ofEvent event).withMessage kind event = ([], .ok u))
    (r : Reading) :
    step id r event s = (.ok ⟨r.calls, r.updates ++ [u]⟩, s.receive [u]) := by
  unfold step
  dsimp only
  rw [Generation.kind_ofEvent, hkind, hfails, hpart, if_neg Bool.false_ne_true,
    if_neg Bool.false_ne_true, if_neg hstop]
  exact handOn_receive hs hkind hu r

theorem feed_apply {r : Reading} (s : Session) {call : Option Content}
    (h : r.calls.feed event = (b, { call := .ok call })) :
    r.feed event s = (.ok ({ r with calls := b }, call), s) := by
  unfold Reading.feed
  rw [h]
  show (Run.ofLogged ([], .ok call) >>= fun call => pure (_, call)) s = _
  rw [Run.bind_apply_ok (Run.ofLogged_apply_ok rfl s), List.append_nil]
  rfl

/-- An event about a call that is under way brings nothing yet. -/
theorem step_toolPart {s : Session} {kind : EventKind}
    (hkind : EventKind.ofEvent event = kind) (hfails : kind.isFailure = false)
    (hpart : (Generation.ofEvent event).isToolPart = true) (hfeed : a.feed event = (b, {}))
    {r : Reading} (hr : r.calls = a) :
    step id r event s = (.ok ⟨b, r.updates ++ []⟩, s.receive []) := by
  subst hr
  unfold step
  dsimp only
  rw [Generation.kind_ofEvent, hkind, hfails, hpart, if_neg Bool.false_ne_true, if_pos rfl]
  rw [Run.bind_apply_ok (feed_apply s hfeed)]
  simp [Session.receive]

end ChatModel

/-! ### One block -/

/-- Updates of the assistant that bring contents with the given substance, and do not end the
message. -/
structure IsPart (id : String) (us : List Update) (bodies : List Body) : Prop where
  role : ∀ u ∈ us, u.role = some .assistant
  modelId : ∀ u ∈ us, u.modelId = some id
  unfinished : ∀ u ∈ us, u.finishReason = none
  bodies : us.flatMap (fun u => u.contents.map Content.body) = bodies

theorem IsPart.nil (id : String) : IsPart id [] [] := ⟨by simp, by simp, by simp, rfl⟩

theorem IsPart.append {id : String} {us vs : List Update} {bs cs : List Body}
    (h : IsPart id us bs) (h' : IsPart id vs cs) : IsPart id (us ++ vs) (bs ++ cs) where
  role := fun u hu => (List.mem_append.mp hu).elim (h.role u) (h'.role u)
  modelId := fun u hu => (List.mem_append.mp hu).elim (h.modelId u) (h'.modelId u)
  unfinished := fun u hu => (List.mem_append.mp hu).elim (h.unfinished u) (h'.unfinished u)
  bodies := by rw [List.flatMap_append, h.bodies, h'.bodies]

theorem isPart_updateOf (id : String) (g : Generation) (event : Document)
    (contents : List Content) :
    IsPart id [{ ChatModel.updateOf id g event with contents }] (contents.map Content.body) where
  role := by simp [ChatModel.updateOf]
  modelId := by simp [ChatModel.updateOf]
  unfinished := by simp [ChatModel.updateOf]
  bodies := by simp

namespace ChatModel

/-- Events that bring a part of a message. -/
def Tells (id : String) (a : Accumulator) (events : List Document) (bodies : List Body)
    (b : Accumulator) : Prop :=
  ∃ us, Brings id a events us b ∧ IsPart id us bodies

namespace Tells

variable {id : String} {a b c : Accumulator} {event : Document} {events more : List Document}
  {bs cs : List Body}

theorem nil (id : String) (a : Accumulator) : Tells id a [] [] a := ⟨[], .nil id a, .nil id⟩

theorem append (h : Tells id a events bs b) (h' : Tells id b more cs c) :
    Tells id a (events ++ more) (bs ++ cs) c := by
  obtain ⟨us, hus, hpart⟩ := h
  obtain ⟨vs, hvs, hpart'⟩ := h'
  exact ⟨us ++ vs, hus.append hvs, hpart.append hpart'⟩

/-- Events each of which tells nothing tell nothing. -/
theorem silent (h : ∀ e ∈ events, Tells id a [e] [] a) : Tells id a events [] a := by
  induction events with
  | nil => exact nil id a
  | cons e rest ih => exact (h e (by simp)).append (ih fun x hx => h x (by simp [hx]))

end Tells

variable {id : String} {a : Accumulator} {i : Int} {event : Document}

theorem tells_messageStart (h : IsMessageStart event) (id : String) (a : Accumulator) :
    Tells id a [event] [] a :=
  ⟨_, .of_step fun r s hr hs => hr ▸ step_handOn hs h rfl (by decide)
      (by rw [Generation.isToolPart_ofEvent, h]) rfl r,
    isPart_updateOf id _ event []⟩

theorem tells_textStart (h : IsTextStart event) (id : String) (a : Accumulator) :
    Tells id a [event] [] a := by
  have hpart : (Generation.ofEvent event).isToolPart = false := by
    rw [Generation.isToolPart_ofEvent, h.kind]
    dsimp only [Value.gives]
    rw [h.plain]
    rfl
  exact ⟨_, .of_step fun r s hr hs => hr ▸ step_handOn hs h.kind rfl (by decide) hpart rfl r,
    isPart_updateOf id _ event []⟩

/-- A piece of a text is told as it comes. -/
theorem tells_textPiece {s : String} (h : IsTextPiece s event) (id : String) (a : Accumulator) :
    Tells id a [event] [.text s] a := by
  have hpart : (Generation.ofEvent event).isToolPart = false := by
    rw [Generation.isToolPart_ofEvent, h.kind]
    dsimp only [Value.gives]
    rw [h.plain]
    rfl
  exact ⟨_, .of_step fun r t hr ht => hr ▸ step_handOn ht h.kind rfl (by decide) hpart
      (by unfold updateFor; dsimp only; rw [shownContents_text h.kind h.text]; rfl) r,
    isPart_updateOf id _ event [⟨.text s, Block.text s, none⟩]⟩

theorem tells_textPieces {parts : List String} {pieces : List Document}
    (h : List.Forall₂ IsTextPiece parts pieces) (id : String) (a : Accumulator) :
    Tells id a pieces (parts.map .text) a := by
  induction h with
  | nil => exact .nil id a
  | cons hpiece _ ih => exact (tells_textPiece hpiece id a).append ih

theorem step_stopsBlock (h : StopsBlock i event) (id : String) (r : Reading) :
    step id r event = r.feed event >>= fun x =>
      match x.2 with
      | some c => x.1.emit { updateOf id (Generation.ofEvent event) event with contents := [c] }
      | none => handOn id x.1 (Generation.ofEvent event) event := by
  have hpart : (Generation.ofEvent event).isToolPart = false := by
    rw [Generation.isToolPart_ofEvent, h.kind]
  unfold step
  dsimp only
  rw [Generation.kind_ofEvent, h.kind, hpart]
  rfl

/-- A block that ends while no call is under way tells nothing. -/
theorem tells_idleStop (h : IsBlockStop i event) (id : String) : Tells id {} [event] [] {} := by
  refine ⟨_, .of_step fun r s hr hs => ?_,
    isPart_updateOf id (Generation.ofEvent event).withMessage event []⟩
  have hfeed : r.calls.feed event = ({}, {}) := by rw [hr, Accumulator.feed_idle_stop h]
  rw [step_stopsBlock h.stopsBlock, Run.bind_apply_ok (feed_apply s hfeed)]
  exact handOn_receive hs h.kind rfl { r with calls := {} }

theorem tells_callStart {callId name : String} (h : IsCallStart i callId name event)
    (id : String) :
    Tells id {} [event] [] (.only i { id := .str callId, name := .str name }) := by
  exact ⟨[], .of_step fun r s hr _ =>
    step_toolPart h.kind rfl h.startsCall.isToolPart (Accumulator.feed_start h) hr, .nil id⟩

theorem tells_fragment {s : String} (h : IsFragment i s event) (id : String) (p : Pending) :
    Tells id (.only i p) [event] [] (.only i { p with fragments := p.fragments ++ [s] }) := by
  exact ⟨[], .of_step fun r t hr _ =>
    step_toolPart h.kind rfl h.extendsCall.isToolPart (Accumulator.feed_fragment h) hr, .nil id⟩

theorem tells_fragments {parts : List String} {fragments : List Document}
    (h : List.Forall₂ (IsFragment i) parts fragments) (id : String) (p : Pending) :
    Tells id (.only i p) fragments [] (.only i { p with fragments := p.fragments ++ parts }) := by
  induction h generalizing p with
  | nil => simpa using Tells.nil id (.only i p)
  | @cons part _ _ _ hfragment _ ih =>
      have hrest := ih { p with fragments := p.fragments ++ [part] }
      rw [List.append_assoc] at hrest
      exact (tells_fragment hfragment id p).append hrest

/-- The stop of a call whose fragments spell its input tells the call. -/
theorem tells_callStop {callId name : String} {parts : List String} {input : Properties}
    (h : IsBlockStop i event) (hinput : Json.parse (String.join parts) = .ok (.obj input))
    (id : String) :
    Tells id (.only i ⟨.str callId, .str name, parts⟩) [event]
      [(Spoken.call callId name input).body] {} := by
  have hfeed := Accumulator.feed_stop (p := ⟨.str callId, .str name, parts⟩) h
  rw [Pending.complete_spelled hinput] at hfeed
  refine ⟨_, .of_step fun r s hr hs => ?_, isPart_updateOf id (Generation.ofEvent event) event
    [⟨(Spoken.call callId name input).body, event, none⟩]⟩
  rw [← hr] at hfeed
  rw [step_stopsBlock h.stopsBlock, Run.bind_apply_ok (feed_apply s hfeed)]
  exact emit_receive hs { r with calls := {} } _

end ChatModel

/-! ### One turn -/

/-- The substance in which one thing that is said arrives: the pieces of a text, or a call. -/
def Spoken.Pieces : Spoken → List Body → Prop
  | .text s, bodies => ∃ parts, parts ≠ [] ∧ String.join parts = s ∧ bodies = parts.map .text
  | .call id name input, bodies => bodies = [(Spoken.call id name input).body]

namespace ChatModel

/-- **The events of a block tell the pieces of what it carries**, and leave no call under way. -/
theorem tells_carried {x : Spoken} {events : List Document} (h : x.Carried events) (id : String) :
    ∃ bodies, x.Pieces bodies ∧ Tells id {} events bodies {} := by
  cases h with
  | @text _ _ _ parts hstarts hparts hpieces hstops =>
      have htold := ((Tells.silent fun e he => tells_textStart (hstarts e he) id {}).append
        (tells_textPieces hpieces id {})).append
        (.silent fun e he => (hstops e he).elim fun _ hstop => tells_idleStop hstop id)
      rw [List.nil_append, List.append_nil] at htold
      exact ⟨_, ⟨parts, hparts, rfl, rfl⟩, htold⟩
  | call hstart hfragments hstop hinput =>
      have htold := ((tells_callStart hstart id).append (tells_fragments hfragments id _)).append
        (tells_callStop hstop hinput id)
      exact ⟨_, rfl, htold⟩

theorem tells_blocks {xs : List Spoken} {blocks : List (List Document)}
    (h : List.Forall₂ Spoken.Carried xs blocks) (id : String) :
    ∃ bodies, List.Forall₂ Spoken.Pieces xs bodies ∧
      Tells id {} blocks.flatten bodies.flatten {} := by
  induction h with
  | nil => exact ⟨[], .nil, .nil id {}⟩
  | cons hblock _ ih =>
      obtain ⟨bs, hbs, htold⟩ := tells_carried hblock id
      obtain ⟨rest, hrest, htold'⟩ := ih
      exact ⟨bs :: rest, .cons hbs hrest, htold.append htold'⟩

end ChatModel

/-- The update that ends a message, with the reason. -/
structure Update.Ends (id : String) (reason : FinishReason) (u : Update) : Prop where
  role : u.role = some .assistant
  modelId : u.modelId = some id
  contents : u.contents = []
  reason : u.finishReason = some reason

/-- The updates in which a turn arrives: the pieces of what is said, the end of the message, and
perhaps the token counts. -/
def Utterance.Arrives (u : Utterance) (id : String) (us : List Update) : Prop :=
  ∃ (told report : List Update) (stop : Update) (pieces : List (List Body)),
    us = told ++ stop :: report ∧ List.Forall₂ Spoken.Pieces u.spoken pieces ∧
    IsPart id told pieces.flatten ∧ stop.Ends id (.ofStopWord u.word) ∧
    IsPart id report (u.reported.map .usage)

namespace ChatModel

variable {event : Document}

theorem brings_messageStop {word : String} (h : IsMessageStop word event) (id : String)
    (a : Accumulator) :
    ∃ u, Brings id a [event] [u] a ∧ u.Ends id (.ofStopWord word) := by
  have hword : (Generation.ofEvent event).withMessage.stopWord = .str word := by
    rw [withMessage_stopWord, stopWord_ofEvent h.kind]
    exact congrArg (fun v => Option.getD v _) h.word
  refine ⟨{ updateOf id (Generation.ofEvent event).withMessage event with
    finishReason := some (.ofStopWord word) }, .of_step fun r s hr hs => ?_, ⟨rfl, rfl, rfl, rfl⟩⟩
  rw [← hr]
  refine step_handOn hs h.kind rfl (by decide) ?_ ?_ r
  · rw [Generation.isToolPart_ofEvent, h.kind]
  · unfold updateFor
    dsimp only
    rw [hword]
    rfl

theorem tells_countReport {counts : Usage} (h : IsCountReport counts event) (id : String)
    (a : Accumulator) : Tells id a [event] [.usage counts] a := by
  obtain ⟨usage, husage, hcounts⟩ := h.counts
  have hread : Wire.usage ((Entries.get? (EventKind.payload .metadata event) "usage").getD .null) =
      .ok counts := by
    rw [EventKind.get?_payload]
    exact (congrArg (fun v => Wire.usage (Option.getD v _)) husage).trans hcounts
  refine ⟨_, .of_step fun r s hr hs => ?_,
    isPart_updateOf id (Generation.ofEvent event).withMessage event [⟨.usage counts, event, none⟩]⟩
  rw [← hr]
  refine step_handOn hs h.kind rfl (by decide) ?_ ?_ r
  · rw [Generation.isToolPart_ofEvent, h.kind]
  · unfold updateFor
    dsimp only
    rw [hread]
    rfl

/-- **A turn that is streamed arrives**, and no call is under way afterwards. -/
theorem brings_streamed {u : Utterance} {events : List Document} (h : u.Streamed events)
    (id : String) : ∃ us, Brings id {} events us {} ∧ u.Arrives id us := by
  obtain ⟨start, stop, blocks, report, rfl, hstart, hblocks, hstop, hsome, hreport⟩ := h
  obtain ⟨pieces, hpieces, hsaid⟩ := tells_blocks hblocks id
  obtain ⟨told, hbrings, htold⟩ := (tells_messageStart hstart id {}).append hsaid
  obtain ⟨last, hlast, hends⟩ := brings_messageStop hstop id {}
  have hcounted : Tells id {} report.toList (u.reported.map .usage) {} := by
    unfold Utterance.reported
    rw [← hsome]
    cases report with
    | none => exact .nil id {}
    | some e => exact tells_countReport (hreport e rfl) id {}
  obtain ⟨rest, hrest, hpart⟩ := hcounted
  exact ⟨told ++ last :: rest, hbrings.append (hlast.append hrest),
    told, rest, last, pieces, rfl, hpieces, htold, hends, hpart⟩

end ChatModel

/-! ### One request -/

/-- What a run adds to the requests, to the log and to what the consumer has received, without
touching what the consumer wants. -/
structure Session.Advances (s t : Session) (requests : List Document) (records : List Record)
    (us : List Update) : Prop extends Session.Grows s t requests records where
  received : t.received = s.received ++ us
  budget : t.budget = s.budget

theorem Session.Advances.trans {s t u : Session} {ds es : List Document} {rs qs : List Record}
    {us vs : List Update} (h : Advances s t ds rs us) (h' : Advances t u es qs vs) :
    Advances s u (ds ++ es) (rs ++ qs) (us ++ vs) where
  toGrows := h.toGrows.trans h'.toGrows
  received := by rw [h'.received, h.received, List.append_assoc]
  budget := h'.budget.trans h.budget

theorem Session.advances_note (s : Session) (records : List Record) :
    s.Advances { s with log := s.log ++ records } [] records [] :=
  ⟨⟨by simp, rfl⟩, by simp, rfl⟩

theorem Session.advances_receive (s : Session) (us : List Update) :
    s.Advances (s.receive us) [] [] us :=
  ⟨⟨by simp [receive], by simp [receive]⟩, rfl, rfl⟩

namespace Run

theorem send_stream {s : Session} {items : List Delivery} {closeable : Bool} {rest : List Reply}
    (h : s.replies = .stream items closeable :: rest) (request : Document) :
    ∃ number t, send request s = (.ok (streamReply items number), t) ∧
      s.Advances t [request] [] [] ∧ t.replies = rest := by
  cases closeable with
  | false => exact ⟨none, _, send_open h request, ⟨⟨rfl, by simp⟩, by simp, rfl⟩, rfl⟩
  | true => exact ⟨_, _, send_closeable h request, ⟨⟨rfl, by simp⟩, by simp, rfl⟩, rfl⟩

theorem closeStream_advances (number : Option Nat) (s : Session) :
    ∃ t, closeStream number s = (.ok (), t) ∧ s.Advances t [] [] [] ∧ t.replies = s.replies := by
  cases number with
  | none => exact ⟨s, rfl, ⟨⟨by simp, by simp⟩, by simp, rfl⟩, rfl⟩
  | some i => exact ⟨_, rfl, ⟨⟨by simp, by simp⟩, by simp, rfl⟩, rfl⟩

end Run

namespace Endpoint

/-- A stream that is ready is read to its end, for the one request that is sent. -/
theorem stream_ready {σ : Type} {s : Session} {items : List Delivery} {closeable : Bool}
    {rest : List Reply} {request id : Document} (hmodel : modelOf request = .ok id)
    (h : s.replies = .stream items closeable :: rest) (p : Policy)
    (step : σ → Document → Run σ) (start : σ) :
    ∃ number t, stream p request step start s =
        (readAll step items start).finallyDo (Run.closeStream number) t ∧
      s.Advances t [request] [announcement "ConverseStream" id] [] ∧ t.replies = rest := by
  obtain ⟨number, t, hsend, hadvances, hreplies⟩ := Run.send_stream
    (s := { s with log := s.log ++ [announcement "ConverseStream" id] }) (by exact h) request
  have hsubmit : submit p "ConverseStream" request
      { s with log := s.log ++ [announcement "ConverseStream" id] } =
        (.ok (Run.streamReply items number), t) := by
    unfold submit reporting Policy.retrying
    rw [Run.onFault_apply, attempt_apply_ok hsend]
  refine ⟨number, t, ?_, (s.advances_note _).trans hadvances, hreplies⟩
  unfold stream
  rw [hmodel, Run.bind_apply_ok (Run.ofExcept_apply _ _),
    Run.bind_apply_ok (announce_apply _ _ _),
    Run.bind_apply_ok hsubmit]
  rfl

theorem stream_exhausted {σ : Type} {s : Session} {request id : Document}
    (hmodel : modelOf request = .ok id) (h : s.replies = []) (p : Policy)
    (step : σ → Document → Run σ) (start : σ) :
    ∃ t, stream p request step start s = (.error (.fault (.runtime "script exhausted")), t) ∧
      s.Advances t [request] [announcement "ConverseStream" id] [] := by
  refine ⟨{ s.sent request with log := s.log ++ [announcement "ConverseStream" id] }, ?_,
    ⟨⟨rfl, rfl⟩, by simp, rfl⟩⟩
  unfold stream
  rw [hmodel, Run.bind_apply_ok (Run.ofExcept_apply _ _),
    Run.bind_apply_ok (announce_apply _ _ _),
    Run.bind_apply_error (submit_exhausted (by exact h) p "ConverseStream" request)]
  rfl

end Endpoint

namespace ChatModel

variable {m : ChatModel} {messages : List Given} {arguments : List (String × Given)} {id : String}
  {request : Document} {s : Session}

/-- A model whose turn is streamed has sent one request, and hands on what arrives. -/
theorem stream_streamed {u : Utterance} {events : List Document} {closeable : Bool}
    {rest : List Reply} (hrequest : (m.prepared messages arguments).2 = .ok (id, request))
    (h : s.replies = .stream (events.map .event) closeable :: rest) (hs : s.budget = none)
    (hu : u.Streamed events) :
    ∃ us records t, u.Arrives id us ∧ (∀ r ∈ records, r.source ≠ .tools) ∧
      m.stream messages arguments s = (.ok us, t) ∧ s.Advances t [request] records us ∧
      t.replies = rest := by
  obtain ⟨us, hbrings, harrives⟩ := brings_streamed hu id
  obtain ⟨number, t, hstream, hsent, hreplies⟩ := Endpoint.stream_ready
    (s := { s with log := s.log ++ (m.prepared messages arguments).1 })
    (prepared_model hrequest) (by exact h) m.policy (step id) {}
  have hread := hbrings {} t [] rfl (hsent.budget.trans hs)
  rw [List.append_nil] at hread
  obtain ⟨t', hclose, hclosed, hreplies'⟩ := Run.closeStream_advances number (t.receive us)
  have hfinish : (Endpoint.readAll (step id) (events.map .event) {}).finallyDo
      (Run.closeStream number) t = (.ok ⟨{}, us⟩, t') :=
    Run.finallyDo_apply_ok hread hclose
  refine ⟨us, (m.prepared messages arguments).1 ++
    [Endpoint.announcement "ConverseStream" (.str id)], t', harrives,
    fun r => not_tools_of_mem_asking, ?_, ?_, hreplies'.trans hreplies⟩
  · unfold stream
    rw [prepare_eq, Run.bind_apply_ok (Run.ofLogged_apply_ok hrequest s)]
    dsimp only
    rw [Run.bind_apply_ok (hstream.trans hfinish)]
    rfl
  · simpa using (((s.advances_note _).trans hsent).trans (t.advances_receive us)).trans hclosed

theorem stream_exhausted (hrequest : (m.prepared messages arguments).2 = .ok (id, request))
    (h : s.replies = []) :
    ∃ records t, (∀ r ∈ records, r.source ≠ .tools) ∧
      m.stream messages arguments s = (.error (.fault (.runtime "script exhausted")), t) ∧
      s.Advances t [request] records [] := by
  obtain ⟨t, hstream, hsent⟩ := Endpoint.stream_exhausted
    (s := { s with log := s.log ++ (m.prepared messages arguments).1 })
    (prepared_model hrequest) (by exact h) m.policy (step id) {}
  refine ⟨(m.prepared messages arguments).1 ++
    [Endpoint.announcement "ConverseStream" (.str id)], t,
    fun r => not_tools_of_mem_asking, ?_, ?_⟩
  · unfold stream
    rw [prepare_eq, Run.bind_apply_ok (Run.ofLogged_apply_ok hrequest s)]
    dsimp only
    rw [Run.bind_apply_error hstream]
  · simpa using (s.advances_note _).trans hsent

end ChatModel

end Parley
