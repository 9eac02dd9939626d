/-
Events and the updates that they bring.

`Translation` says what a consumer gets of the events of a reply: an update for each,
in their order, except for those that begin a call or carry a fragment of its input.
`Update.Conveys` says what an update holds.  The call that comes with the end of a block
is read off the events before it, so that other calls under way at the same time have
no part in it.

An update that hands on an event of an unknown kind is noted in the log, and so is input
that is no JSON; `ChatModel.Reads` therefore leaves the records open, which
`ChatModel.Brings` does not.
-/
import Parley.Proofs.Dialogue
import Parley.Proofs.Interleaving
import Parley.Proofs.Stream

namespace Parley

/-! ### What an update conveys -/

/-- What an event brings after the events before it, latest first: the call whose block it ends, or
what it imparts by itself. -/
inductive Brought (past : List Document) (event : Document) :
    List Body → Option FinishReason → Prop
  | call {i : Int} {id name : String} {parts : List String} {arguments : Arguments}
      {fault : Option Fault} (h : StopsBlock i event) (hunder : Underway i past id name parts)
      (hspells : Spells (String.join parts) arguments fault) :
      Brought past event [.call ⟨id, name, arguments, fault⟩] none
  | idle {i : Int} (h : StopsBlock i event)
      (hidle : ∀ id name parts, ¬ Underway i past id name parts) : Brought past event [] none
  | own {bodies : List Body} {reason : Option FinishReason} (h : Imparts event bodies reason) :
      Brought past event bodies reason

/-- An update of the assistant that tells of an event, remembers it, and holds what it brings. -/
structure Update.Conveys (u : Update) (id : String) (past : List Document) (event : Document) :
    Prop where
  role : u.role = some .assistant
  modelId : u.modelId = some id
  metadata : ∃ g : Generation, u.metadata = .leaf (.generation g) ∧ g.event = event
  raw : u.raw = event
  brought : Brought past event (u.contents.map Content.body) u.finishReason

/-- The updates that events bring after events `past`, latest first: one for each event, in their
order, but none for an event that begins a call or carries a fragment of its input. -/
inductive Translation (id : String) : List Document → List Document → List Update → Prop
  | nil (past : List Document) : Translation id past [] []
  | start {past rest : List Document} {event : Document} {us : List Update} {i : Int}
      {callId name : String} (h : StartsCall i callId name event)
      (hrest : Translation id (event :: past) rest us) : Translation id past (event :: rest) us
  | fragment {past rest : List Document} {event : Document} {us : List Update} {i : Int}
      {s : String} (h : ExtendsCall i s event) (hrest : Translation id (event :: past) rest us) :
      Translation id past (event :: rest) us
  | update {past rest : List Document} {event : Document} {u : Update} {us : List Update}
      (h : u.Conveys id past event) (hrest : Translation id (event :: past) rest us) :
      Translation id past (event :: rest) (u :: us)

/-! ### Events that can be read -/

/-- An event that the service can send: about a call, the end of a block, or any other that reports
no failure. -/
inductive Shaped (event : Document) : Prop
  | start {i : Int} {id name : String} (h : StartsCall i id name event)
  | fragment {i : Int} {s : String} (h : ExtendsCall i s event)
  | stop {i : Int} (h : StopsBlock i event)
  | imparts {bodies : List Body} {reason : Option FinishReason} (h : Imparts event bodies reason)

/-- Events of which each can be read: it has one of the shapes, and the input of a call that ends is
blank, an object, or no JSON.  The events before them are listed with the latest first. -/
inductive Legible : List Document → List Document → Prop
  | nil (past : List Document) : Legible past []
  | cons {past rest : List Document} {event : Document} (hshape : Shaped event)
      (hinput : ∀ i id name parts, StopsBlock i event → Underway i past id name parts →
        ∃ arguments fault, Spells (String.join parts) arguments fault)
      (hrest : Legible (event :: past) rest) : Legible past (event :: rest)

namespace Legible

variable {past rest : List Document} {event : Document} {i : Int} {id name : String}
  {parts : List String}

theorem begin_or_go_on (hshape : Shaped event) (hkind : EventKind.ofEvent event ≠ .blockStop)
    (hrest : Legible (event :: past) rest) : Legible past (event :: rest) :=
  .cons hshape (fun _ _ _ _ h => absurd h.kind hkind) hrest

theorem end_call {arguments : Arguments} {fault : Option Fault} (h : StopsBlock i event)
    (hcall : Underway i past id name parts) (hspells : Spells (String.join parts) arguments fault)
    (hrest : Legible (event :: past) rest) : Legible past (event :: rest) := by
  refine .cons (.stop h) (fun j id' name' parts' h' hunder => ?_) hrest
  obtain rfl := h.unique h'
  obtain ⟨-, -, rfl⟩ := hcall.unique hunder
  exact ⟨arguments, fault, hspells⟩

end Legible

/-! ### One event -/

namespace ChatModel

/-- Events that bring updates when the calls `a` are under way and leave `b` under way, whatever is
noted on the way. -/
def Reads (id : String) (a : Accumulator) (events : List Document) (us : List Update)
    (b : Accumulator) : Prop :=
  ∀ (r : Reading) (s : Session) (rest : List Delivery), r.calls = a → s.budget = none →
    ∃ records, Endpoint.readAll (step id) (events.map .event ++ rest) r s =
      Endpoint.readAll (step id) rest ⟨b, r.updates ++ us⟩
        ({ s with log := s.log ++ records }.receive us)

variable {id : String} {a b c : Accumulator} {event : Document} {us vs : List Update}

theorem Reads.nil (id : String) (a : Accumulator) : Reads id a [] [] a := by
  intro r s rest hr _
  subst hr
  exact ⟨[], by simp [Session.receive]⟩

theorem Reads.append {events more : List Document} (h : Reads id a events us b)
    (h' : Reads id b more vs c) : Reads id a (events ++ more) (us ++ vs) c := by
  intro r s rest hr hs
  obtain ⟨records, hread⟩ := h r s (more.map .event ++ rest) hr hs
  obtain ⟨records', hread'⟩ := h' ⟨b, r.updates ++ us⟩
    ({ s with log := s.log ++ records }.receive us) rest rfl hs
  refine ⟨records ++ records', ?_⟩
  rw [List.map_append, List.append_assoc, hread, hread']
  simp [Session.receive]

theorem Reads.of_step
    (h : ∀ (r : Reading) (s : Session), r.calls = a → s.budget = none → ∃ records,
      step id r event s =
        (.ok ⟨b, r.updates ++ us⟩, { s with log := s.log ++ records }.receive us)) :
    Reads id a [event] us b := by
  intro r s rest hr hs
  obtain ⟨records, hstep⟩ := h r s hr hs
  exact ⟨records, by rw [List.map_cons, List.map_nil, List.singleton_append, Endpoint.readAll,
    Run.bind_apply_ok hstep]⟩

theorem feed_apply_ok {r : Reading} (s : Session) {fed : Fed} {call : Option Content}
    (h : r.calls.feed event = (b, fed)) (hcall : fed.call = .ok call) :
    r.feed event s = (.ok ({ r with calls := b }, call), { s with log := s.log ++ fed.notes }) := by
  unfold Reading.feed
  rw [h]
  show (Run.ofLogged (fed.notes, fed.call) >>= fun call => pure (_, call)) s = _
  rw [Run.bind_apply_ok (Run.ofLogged_apply_ok hcall s)]
  rfl

/-- An event about a call that is under way brings nothing yet. -/
theorem reads_toolPart (hfails : (EventKind.ofEvent event).isFailure = false)
    (hpart : (Generation.ofEvent event).isToolPart = true) (hfeed : a.feed event = (b, {})) :
    Reads id a [event] [] b := by
  refine .of_step fun r s hr _ => ⟨[], ?_⟩
  subst hr
  unfold step
  dsimp only
  rw [Generation.kind_ofEvent, hfails, hpart, if_neg Bool.false_ne_true, if_pos rfl,
    Run.bind_apply_ok (feed_apply_ok s hfeed rfl)]
  simp [Session.receive]

theorem handOn_apply {s : Session} (hs : s.budget = none) {records : List Record} {u : Update}
    (hu : updateFor id (Generation.ofEvent event).withMessage (EventKind.ofEvent event) event =
      (records, .ok u)) (r : Reading) :
    handOn id r (Generation.ofEvent event) event s =
      (.ok { r with updates := r.updates ++ [u] },
        { s with log := s.log ++ records }.receive [u]) := by
  unfold handOn
  rw [kind_withMessage, Generation.kind_ofEvent, hu,
    Run.bind_apply_ok (Run.ofLogged_apply_ok rfl s)]
  exact emit_receive (s := { s with log := s.log ++ records }) hs r u

theorem withMessage_event (event : Document) :
    (Generation.ofEvent event).withMessage.event = event := by
  unfold Generation.withMessage
  split
  · rfl
  · split <;> rfl

theorem conveys_updateOf {past : List Document} {g : Generation} {contents : List Content}
    {reason : Option FinishReason} (hg : g.event = event)
    (h : Brought past event (contents.map Content.body) reason) :
    ({ updateOf id g event with contents, finishReason := reason } : Update).Conveys id past event
    where
  role := rfl
  modelId := rfl
  metadata := ⟨g, rfl, hg⟩
  raw := rfl
  brought := h

theorem shownContents_delta (h : EventKind.ofEvent event = .blockDelta)
    (htext : ∀ s, ¬ EventKind.Holds .blockDelta event ["delta", "text"] (.str s)) :
    shownContents (Generation.ofEvent event).withMessage = .ok [] := by
  have hpart : (Generation.ofEvent event).textPart? = none := by
    rw [Generation.textPart?_ofEvent h, Option.bind_eq_none_iff]
    intro v hv
    cases v with
    | str s => exact absurd hv (htext s)
    | _ => rfl
  have hmessage : (Generation.ofEvent event).withMessage.message = .empty := by
    unfold Generation.withMessage
    rw [Generation.kind?_ofEvent h (by decide), hpart]
  unfold shownContents
  rw [hmessage]
  rfl

/-- An event that is about no call brings one update, which holds what the event imparts. -/
theorem updateFor_imparts {bodies : List Body} {reason : Option FinishReason}
    (h : Imparts event bodies reason) (id : String) :
    ∃ records contents,
      updateFor id (Generation.ofEvent event).withMessage (EventKind.ofEvent event) event =
        (records, .ok { updateOf id (Generation.ofEvent event).withMessage event with
          contents, finishReason := reason }) ∧ contents.map Content.body = bodies := by
  cases h with
  | messageStart h =>
      rw [h]
      exact ⟨[], [], rfl, rfl⟩
  | blockStart h =>
      rw [h]
      exact ⟨[], [], rfl, rfl⟩
  | @text _ s h hplain htext =>
      have hcontents := shownContents_text h htext
      rw [h]
      refine ⟨[], [⟨.text s, Block.text s, none⟩], ?_, rfl⟩
      unfold updateFor
      dsimp only
      rw [hcontents]
      rfl
  | delta h hplain htext =>
      have hcontents := shownContents_delta h htext
      rw [h]
      refine ⟨[], [], ?_, rfl⟩
      unfold updateFor
      dsimp only
      rw [hcontents]
      rfl
  | messageStop h hword hreason =>
      have hkept : (Generation.ofEvent event).withMessage.stopWord = _ :=
        (withMessage_stopWord _).trans (stopWord_ofEvent h)
      rw [h]
      refine ⟨[], [], ?_, rfl⟩
      unfold updateFor
      dsimp only
      rw [hkept, hword, hreason]
      rfl
  | @counts _ counts h hcounts =>
      rw [h]
      refine ⟨[], [⟨.usage counts, event, none⟩], ?_, rfl⟩
      unfold updateFor
      dsimp only
      rw [EventKind.get?_payload, hcounts]
      rfl
  | unknown h =>
      rw [h]
      exact ⟨_, [], rfl, rfl⟩


theorem step_imparts {bodies : List Body} {reason : Option FinishReason}
    (h : Imparts event bodies reason) (id : String) (r : Reading) :
    step id r event = handOn id r (Generation.ofEvent event) event := by
  unfold step
  dsimp only
  rw [Generation.kind_ofEvent, h.isFailure, h.isToolPart, if_neg Bool.false_ne_true,
    if_neg Bool.false_ne_true, if_neg h.ne_blockStop]

theorem reads_imparts {bodies : List Body} {reason : Option FinishReason}
    (h : Imparts event bodies reason) (id : String) (a : Accumulator) (past : List Document) :
    ∃ u, Reads id a [event] [u] a ∧ u.Conveys id past event := by
  obtain ⟨records, contents, hu, rfl⟩ := updateFor_imparts h id
  refine ⟨_, .of_step fun r s hr hs => ⟨records, ?_⟩,
    conveys_updateOf (withMessage_event event) (.own h)⟩
  subst hr
  rw [step_imparts h, handOn_apply hs hu]

/-- The end of a block without a call brings an update without contents. -/
theorem reads_idleStop {i : Int} (h : StopsBlock i event) (hidle : a.get? (.number i) = none)
    (id : String) {past : List Document}
    (hpast : ∀ id name parts, ¬ Underway i past id name parts) :
    ∃ u, Reads id a [event] [u] a ∧ u.Conveys id past event := by
  refine ⟨updateOf id (Generation.ofEvent event).withMessage event,
    .of_step fun r s hr hs => ⟨[], ?_⟩,
    conveys_updateOf (withMessage_event event) (.idle h hpast)⟩
  subst hr
  have hfeed : r.calls.feed event = (r.calls, {}) := by
    rw [Accumulator.feed_stopsBlock _ h, hidle]
  rw [step_stopsBlock h, Run.bind_apply_ok (feed_apply s hfeed), List.append_nil]
  exact handOn_receive hs h.kind rfl r

/-- The end of a call's block brings the call. -/
theorem reads_callStop {i : Int} {callId name : String} {parts : List String}
    {arguments : Arguments} {fault : Option Fault} (h : StopsBlock i event)
    (hcall : a.get? (.number i) = some ⟨.str callId, .str name, parts⟩)
    (hspells : Spells (String.join parts) arguments fault) (id : String) {past : List Document}
    (hpast : Underway i past callId name parts) :
    ∃ u, Reads id a [event] [u] (a.erase (.number i)) ∧ u.Conveys id past event := by
  obtain ⟨notes, hcomplete⟩ := Pending.complete_spells hspells callId name event
  refine ⟨{ updateOf id (Generation.ofEvent event) event with
      contents := [⟨.call ⟨callId, name, arguments, fault⟩, event, none⟩], finishReason := none },
    .of_step fun r s hr hs => ⟨notes, ?_⟩, conveys_updateOf rfl (.call h hpast hspells)⟩
  subst hr
  have hfeed := Accumulator.feed_stopsBlock r.calls h
  rw [hcall] at hfeed
  dsimp only at hfeed
  rw [hcomplete] at hfeed
  rw [step_stopsBlock h, Run.bind_apply_ok (feed_apply_ok s hfeed rfl)]
  exact emit_receive (s := { s with log := s.log ++ notes }) hs _ _

/-! ### A whole stream -/

/-- One event is read, and brings the update that conveys it unless it belongs to a call. -/
theorem reads_shaped {past : List Document} (ha : a.Holds past) (h : Shaped event)
    (hinput : ∀ i id name parts, StopsBlock i event → Underway i past id name parts →
      ∃ arguments fault, Spells (String.join parts) arguments fault) (id : String) :
    ∃ us b, Reads id a [event] us b ∧ b.Holds (event :: past) ∧
      ∀ rest vs, Translation id (event :: past) rest vs →
        Translation id past (event :: rest) (us ++ vs) := by
  cases h with
  | start h =>
      refine ⟨[], _, reads_toolPart ?_ h.isToolPart (Accumulator.feed_startsCall a h),
        ha.startsCall h, fun _ _ => .start h⟩
      rw [h.kind]
      rfl
  | fragment h =>
      refine ⟨[], _, reads_toolPart ?_ h.isToolPart (Accumulator.feed_extendsCall a h),
        ha.extendsCall h, fun _ _ => .fragment h⟩
      rw [h.kind]
      rfl
  | @stop i h =>
      cases hget : a.get? (.number i) with
      | none =>
          obtain ⟨u, hreads, hu⟩ := reads_idleStop h hget id (ha.get?_eq_none.mp hget)
          exact ⟨[u], a, hreads, ha.idle_stopsBlock h hget, fun _ _ => .update hu⟩
      | some p =>
          obtain ⟨callId, name, parts, hunder, rfl⟩ := (ha i p).mp hget
          obtain ⟨arguments, fault, hspells⟩ := hinput i callId name parts h hunder
          obtain ⟨u, hreads, hu⟩ := reads_callStop h hget hspells id hunder
          exact ⟨[u], _, hreads, ha.stopsBlock h, fun _ _ => .update hu⟩
  | imparts h =>
      obtain ⟨u, hreads, hu⟩ := reads_imparts h id a past
      exact ⟨[u], a, hreads, ha.imparts h, fun _ _ => .update hu⟩

/-- **Events that can be read are translated**, whatever calls are under way before them, and those
that are under way afterwards are held. -/
theorem reads_legible {past events : List Document} (h : Legible past events) (ha : a.Holds past)
    (id : String) :
    ∃ us b, Reads id a events us b ∧ Translation id past events us ∧
      b.Holds (events.reverse ++ past) := by
  induction h generalizing a with
  | nil past => exact ⟨[], a, .nil id a, .nil past, ha⟩
  | cons hshape hinput _ ih =>
      obtain ⟨us, b, hreads, hb, htranslates⟩ := reads_shaped ha hshape hinput id
      obtain ⟨vs, c, hrest, hvs, hc⟩ := ih hb
      refine ⟨us ++ vs, c, hreads.append hrest, htranslates _ _ hvs, ?_⟩
      simpa using hc

/-- What comes of a stream after the events that can be read: nothing more, or the fault that the
next delivery is. -/
inductive Ending : List Delivery → Option Fault → Prop
  | done : Ending [] none
  | failed {event : Document} {kind : EventKind} {rest : List Delivery}
      (h : EventKind.ofEvent event = kind) (hfails : kind.isFailure = true) :
      Ending (.event event :: rest)
        (some (streamFault kind ((event.at? [kind.key, "message"]).getD (.str ""))))
  | broken {f : Fault} {rest : List Delivery} : Ending (.failure f :: rest) (some f)

/-- How a reading ends: with what was read, or with a fault. -/
def ended {α : Type} (a : α) : Option Fault → Except Halt α
  | none => .ok a
  | some f => .error (.fault f)

theorem noteRefusal_apply (operation : String) (f : Fault) (s : Session) :
    ∃ records, Endpoint.noteRefusal operation f s =
      (.ok (), { s with log := s.log ++ records }) := by
  unfold Endpoint.noteRefusal
  split
  · exact ⟨_, rfl⟩
  · exact ⟨[], by rw [List.append_nil]; rfl⟩

theorem readAll_ending {rest : List Delivery} {fault : Option Fault} (h : Ending rest fault)
    (id : String) (r : Reading) (s : Session) :
    ∃ records, Endpoint.readAll (step id) rest r s =
      (ended r fault, { s with log := s.log ++ records }) := by
  cases h with
  | done => exact ⟨[], by rw [List.append_nil]; rfl⟩
  | @failed event kind rest h hfails =>
      refine ⟨[⟨.error, .chat, s!"Bedrock ConverseStream error event [{kind.key}]: " ++
        ((event.at? [kind.key, "message"]).getD (.str "")).display⟩], ?_⟩
      rw [Endpoint.readAll, Run.bind_apply]
      unfold step
      dsimp only
      rw [Generation.kind_ofEvent, h, hfails, if_pos rfl, EventKind.get?_payload]
      rfl
  | @broken f rest =>
      obtain ⟨records, hnote⟩ := noteRefusal_apply "ConverseStream" f s
      refine ⟨records, ?_⟩
      rw [Endpoint.readAll]
      unfold Endpoint.reporting
      rw [Run.onFault_apply, Run.fail_apply]
      dsimp only
      rw [Run.bind_apply_ok hnote]
      rfl

variable {m : ChatModel} {messages : List Given} {arguments : List (String × Given)}
  {request : Document} {s : Session}

/-- A stream is read to where it ends, for the one request that is sent. -/
theorem stream_reads {events : List Document} {rest : List Delivery} {fault : Option Fault}
    {closeable : Bool} {more : List Reply}
    (hrequest : (m.prepared messages arguments).2 = .ok (id, request))
    (h : s.replies = .stream (events.map .event ++ rest) closeable :: more)
    (hs : s.budget = none) (hreads : Reads id {} events us b)
    (hrest : ∀ (r : Reading) (s : Session), r.calls = b → ∃ records,
      Endpoint.readAll (step id) rest r s = (ended r fault, { s with log := s.log ++ records })) :
    ∃ records t, m.stream messages arguments s = (ended us fault, t) ∧
      s.Advances t [request] records us := by
  obtain ⟨number, t, hstream, hsent, -⟩ := Endpoint.stream_ready
    (s := { s with log := s.log ++ (m.prepared messages arguments).1 })
    (prepared_model hrequest) (by exact h) m.policy (step id) {}
  obtain ⟨records, hread⟩ := hreads {} t rest rfl (hsent.budget.trans hs)
  obtain ⟨records', hend⟩ := hrest ⟨b, us⟩ ({ t with log := t.log ++ records }.receive us) rfl
  have hreceived := ((t.advances_note records).trans (Session.advances_receive _ us)).trans
    (Session.advances_note _ records')
  obtain ⟨u, hclose, hclosed, -⟩ := Run.closeStream_advances number _
  refine ⟨(m.prepared messages arguments).1 ++
    [Endpoint.announcement "ConverseStream" (.str id)] ++ (records ++ records'), u, ?_, ?_⟩
  · unfold stream
    rw [prepare_eq, Run.bind_apply_ok (Run.ofLogged_apply_ok hrequest s)]
    dsimp only
    rw [Run.bind_apply, hstream, Run.finallyDo_apply_ok (hread.trans hend) hclose]
    cases fault <;> rfl
  · simpa using (((s.advances_note _).trans hsent).trans hreceived).trans hclosed

open EventKind

/-- Two calls whose events are mixed with each other and with an event of an unknown kind.  The
input of the second one is no JSON. -/
def crossed : List Document :=
  [callStart 0 "t1" "add", callStart 1 "t2" "find", callFragment 0 "\x7b\"a\"",
    callFragment 1 "\x7ba", .obj [("ping", .obj [])], callFragment 0 ": \"b\"\x7d", stopAt 1,
    stopAt 0]

theorem legible_crossed : Legible [] crossed := by
  have hfirst : Underway 0 [stopAt 1, callFragment 0 ": \"b\"\x7d", .obj [("ping", .obj [])],
      callFragment 1 "\x7ba", callFragment 0 "\x7b\"a\"", callStart 1 "t2" "find",
      callStart 0 "t1" "add"] "t1" "add" ["\x7b\"a\"", ": \"b\"\x7d"] := by
    rw [Underway.cons_stopsBlock (stopsBlock_stopAt 1)]
    refine ⟨by decide, ?_⟩
    rw [Underway.cons_extendsCall (extendsCall_callFragment 0 _), if_pos rfl]
    refine ⟨["\x7b\"a\""], ?_, rfl⟩
    rw [Underway.cons_imparts (.unknown rfl),
      Underway.cons_extendsCall (extendsCall_callFragment 1 _), if_neg (by decide),
      Underway.cons_extendsCall (extendsCall_callFragment 0 _), if_pos rfl]
    refine ⟨[], ?_, rfl⟩
    rw [Underway.cons_startsCall (startsCall_callStart 1 _ _), if_neg (by decide)]
    exact .start (startsCall_callStart 0 _ _)
  have hsecond : Underway 1 [callFragment 0 ": \"b\"\x7d", .obj [("ping", .obj [])],
      callFragment 1 "\x7ba", callFragment 0 "\x7b\"a\"", callStart 1 "t2" "find",
      callStart 0 "t1" "add"] "t2" "find" ["\x7ba"] := by
    rw [Underway.cons_extendsCall (extendsCall_callFragment 0 _), if_neg (by decide),
      Underway.cons_imparts (.unknown rfl),
      Underway.cons_extendsCall (extendsCall_callFragment 1 _), if_pos rfl]
    refine ⟨[], ?_, rfl⟩
    rw [Underway.cons_extendsCall (extendsCall_callFragment 0 _), if_neg (by decide)]
    exact .start (startsCall_callStart 1 _ _)
  have hobject :
      Spells (String.join ["\x7b\"a\"", ": \"b\"\x7d"]) (.entries [("a", .str "b")]) none :=
    .object (Json.parse_eq_single (by decide +kernel))
  have hmalformed : Spells (String.join ["\x7ba"]) (.text "\x7ba")
      (some (.malformedJson (.syntaxError .propertyName 1 2 1))) :=
    .malformed (by decide +kernel) (Json.parse_eq_error (by decide +kernel))
  refine .begin_or_go_on (.start (startsCall_callStart 0 _ _)) (by decide) ?_
  refine .begin_or_go_on (.start (startsCall_callStart 1 _ _)) (by decide) ?_
  refine .begin_or_go_on (.fragment (extendsCall_callFragment 0 _)) (by decide) ?_
  refine .begin_or_go_on (.fragment (extendsCall_callFragment 1 _)) (by decide) ?_
  refine .begin_or_go_on (.imparts (.unknown rfl)) (by decide) ?_
  refine .begin_or_go_on (.fragment (extendsCall_callFragment 0 _)) (by decide) ?_
  refine .end_call (stopsBlock_stopAt 1) hsecond hmalformed ?_
  exact .end_call (stopsBlock_stopAt 0) hfirst hobject (.nil _)

end ChatModel

end Parley
