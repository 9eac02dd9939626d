/-
Asking the service.

However often a request is tried, it is the same request, and it is announced
once.  On a script that answers, a request is sent once and its answer is the next
one of the script.
-/
import Parley.Chat.Model
import Parley.Proofs.Outcome
import Parley.Proofs.Request
import Parley.Proofs.Run

namespace Parley

/-! ### Any reply -/

/-- What happens between asking the service and asking it again. -/
structure Round where
  requests : List Document
  records : List Record

/-- A round that sends nothing and announces nothing, or sends one request, perhaps several times
over, and announces it once. -/
def Round.Asks (P : Document → Prop) (r : Round) : Prop :=
  (r.requests = [] ∧ r.records.countP Record.isAnnouncement = 0) ∨
    ∃ request k, P request ∧ r.requests = List.replicate (k + 1) request ∧
      r.records.countP Record.isAnnouncement = 1

namespace Round.Asks

variable {P Q : Document → Prop} {r : Round}

theorem mono (h : ∀ request, P request → Q request) (hr : r.Asks P) : r.Asks Q := by
  rcases hr with hr | ⟨request, k, hp, hr⟩
  · exact .inl hr
  · exact .inr ⟨request, k, h _ hp, hr⟩

theorem of_mem (hr : r.Asks P) {request : Document} (h : request ∈ r.requests) : P request := by
  rcases hr with ⟨hnone, -⟩ | ⟨asked, k, hp, hall, -⟩
  · simp [hnone] at h
  · rw [hall] at h
    rwa [List.eq_of_mem_replicate h]

end Round.Asks

theorem countP_quiet {records : List Record} (h : ∀ r ∈ records, r.isQuiet = true) :
    records.countP Record.isAnnouncement = 0 := by
  rw [List.countP_eq_zero]
  intro r hr
  have hquiet := h r hr
  simp only [Record.isQuiet, Bool.and_eq_true, Bool.not_eq_true'] at hquiet
  simp [hquiet.1]

theorem not_isInvocation_of_isQuiet {r : Record} (h : r.isQuiet = true) :
    r.isInvocation = false := by
  simp only [Record.isQuiet, Bool.and_eq_true, Bool.not_eq_true'] at h
  exact h.2

theorem isQuiet_of_source {r : Record} (hapi : r.source ≠ .api) (htools : r.source ≠ .tools) :
    r.isQuiet = true := by
  simp [Record.isQuiet, Record.isAnnouncement, Record.isInvocation, hapi, htools]

namespace Run

variable {α β : Type}

/-- A computation of one round that calls no tool, and that has asked if it gives a value. -/
def Asks (P : Document → Prop) (x : Run α) : Prop :=
  ∀ s, ∃ r : Round, Session.Grows s (x s).2 r.requests r.records ∧ r.Asks P ∧
    (∀ q ∈ r.records, q.isInvocation = false) ∧ ((∃ a, (x s).1 = .ok a) → r.requests ≠ [])

namespace Asks

variable {P : Document → Prop}

theorem after {x : Run α} {f : α → Run β} (hx : Quiet x)
    (hf : ∀ s a t, x s = (.ok a, t) → Asks P (f a)) : Asks P (x >>= f) := by
  intro s
  obtain ⟨rs, hgrows, hrs⟩ := hx s
  rw [bind_apply]
  rcases h : x s with ⟨e | a, t⟩ <;> rw [h] at hgrows
  · refine ⟨⟨[], rs⟩, hgrows, .inl ⟨rfl, countP_quiet hrs⟩, ?_, by simp⟩
    exact fun q hq => not_isInvocation_of_isQuiet (hrs q hq)
  · obtain ⟨r, hgrows', hasks, hno, hok⟩ := hf s a t h t
    refine ⟨⟨r.requests, rs ++ r.records⟩, by simpa using hgrows.trans hgrows', ?_, ?_, hok⟩
    · simpa only [Round.Asks, List.countP_append, countP_quiet hrs, Nat.zero_add] using hasks
    · intro q hq
      exact (List.mem_append.mp hq).elim (fun h => not_isInvocation_of_isQuiet (hrs q h)) (hno q)

theorem before {x : Run α} {f : α → Run β} (hx : Asks P x) (hf : ∀ a, Quiet (f a)) :
    Asks P (x >>= f) := by
  intro s
  obtain ⟨r, hgrows, hasks, hno, hok⟩ := hx s
  rw [bind_apply]
  rcases h : x s with ⟨e | a, t⟩ <;> rw [h] at hgrows hok
  · exact ⟨r, hgrows, hasks, hno, by simp⟩
  · obtain ⟨qs, hgrows', hqs⟩ := hf a t
    refine ⟨⟨r.requests, r.records ++ qs⟩, by simpa using hgrows.trans hgrows', ?_, ?_,
      fun _ => hok ⟨a, rfl⟩⟩
    · simpa only [Round.Asks, List.countP_append, countP_quiet hqs, Nat.add_zero] using hasks
    · intro q hq
      exact (List.mem_append.mp hq).elim (hno q) fun h => not_isInvocation_of_isQuiet (hqs q h)

end Asks

end Run

namespace Endpoint

theorem quiet_noteRefusal (operation : String) (f : Fault) :
    Run.Quiet (noteRefusal operation f) := by
  unfold noteRefusal
  split
  · exact .note (by simp [Record.isQuiet, Record.isAnnouncement, Record.isInvocation])
  · exact .pure _

theorem quiet_refuse {α : Type} (operation : String) (f : Fault) :
    Run.Quiet (do noteRefusal operation f; Run.fail f : Run α) :=
  (quiet_noteRefusal operation f).bind fun _ => .fail f

theorem repeats_attempt (p : Policy) (request : Document) (left : Nat) :
    ∀ k, Run.Repeats request (p.attempt (Run.send request) k left) := by
  induction left with
  | zero => exact fun _ => .send request
  | succ left ih =>
      intro k
      refine (Run.Repeats.send request).onFault fun f => ?_
      by_cases h : Policy.mayPass f
      · rw [if_pos h]
        refine .inr fun s => ?_
        obtain ⟨j, rs, hgrows, hrs⟩ := ih (k + 1) (Run.pause (p.wait k) s).2
        exact ⟨j, rs, ⟨hgrows.requests, hgrows.log⟩, hrs⟩
      · rw [if_neg h]
        exact .inl (.fail f)

/-- Submitting a request sends that request and no other. -/
theorem repeats_submit (p : Policy) (operation : String) (request : Document) :
    Run.Repeats request (submit p operation request) :=
  (repeats_attempt p request _ 0).onFault fun f => .inl (quiet_refuse operation f)

/-- A request that is announced and submitted is a round. -/
theorem asks_submit {α : Type} {P : Document → Prop} (p : Policy) (operation : String)
    {request : Document} (h : P request) (id : Document) {f : Value Attachment → Run α}
    (hf : ∀ reply, Run.Quiet (f reply)) :
    Run.Asks P (do announce operation id; let reply ← submit p operation request; f reply) := by
  rw [← bind_assoc]
  refine Run.Asks.before (fun s => ?_) hf
  obtain ⟨k, rs, hgrows, hrs⟩ := repeats_submit p operation request (announce operation id s).2
  have hsaid : Session.Grows s (announce operation id s).2 [] [⟨.debug, .api, _⟩] :=
    ⟨(List.append_nil _).symm, rfl⟩
  rw [Run.bind_apply_ok
    (show announce operation id s = (.ok (), (announce operation id s).2) from rfl)]
  refine ⟨⟨_, _⟩, hsaid.trans hgrows, .inr ⟨request, k, h, rfl, ?_⟩, ?_, by simp⟩
  · rw [List.countP_append, countP_quiet hrs]
    rfl
  · intro q hq
    rcases List.mem_cons.mp hq with rfl | hq
    · rfl
    · exact not_isInvocation_of_isQuiet (hrs q hq)

theorem quiet_readAll {σ : Type} {step : σ → Document → Run σ}
    (hstep : ∀ acc e, Run.Quiet (step acc e)) :
    ∀ items acc, Run.Quiet (readAll step items acc) := by
  intro items
  induction items with
  | nil => exact fun _ => .pure _
  | cons item rest ih =>
      intro acc
      cases item with
      | failure f => exact (Run.Quiet.fail f).onFault fun f => quiet_refuse _ f
      | event e => exact (hstep acc e).bind ih

/-! ### A script of answers -/

theorem attempt_apply_ok {α : Type} {x : Run α} {a : α} {s t : Session} (h : x s = (.ok a, t))
    (p : Policy) (k left : Nat) : p.attempt x k left s = (.ok a, t) := by
  cases left with
  | zero => exact h
  | succ left => rw [Policy.attempt, Run.onFault_apply, h]

theorem attempt_apply_error {α : Type} {x : Run α} {f : Fault} {s t : Session}
    (h : x s = (.error (.fault f), t)) (hf : Policy.mayPass f = false) (p : Policy)
    (k left : Nat) : p.attempt x k left s = (.error (.fault f), t) := by
  cases left with
  | zero => exact h
  | succ left =>
      rw [Policy.attempt, Run.onFault_apply, h]
      simp [hf]

theorem submit_answer {s : Session} {v : Value Attachment} {rest : List Reply}
    (h : s.replies = .answer v :: rest) (p : Policy) (operation : String) (request : Document) :
    submit p operation request s =
      (.ok v, { s.sent request with replies := rest }) := by
  unfold submit reporting Policy.retrying
  rw [Run.onFault_apply, attempt_apply_ok (Run.send_answer h request)]

theorem submit_exhausted {s : Session} (h : s.replies = []) (p : Policy) (operation : String)
    (request : Document) :
    submit p operation request s =
      (.error (.fault (.runtime "script exhausted")), s.sent request) := by
  unfold submit reporting Policy.retrying
  rw [Run.onFault_apply, attempt_apply_error (Run.send_exhausted h request) rfl]
  rfl

/-- The record that announces a request. -/
def announcement (operation : String) (id : Document) : Record :=
  ⟨.debug, .api, s!"{operation} request for model '" ++ id.display ++ "'"⟩

theorem announce_apply (operation : String) (id : Document) (s : Session) :
    announce operation id s = (.ok (), { s with log := s.log ++ [announcement operation id] }) :=
  rfl

/-- An answer that is ready is given to the one request that is sent. -/
theorem converse_answer {s : Session} {v : Value Attachment} {rest : List Reply}
    {request id : Document} (hmodel : modelOf request = .ok id)
    (h : s.replies = .answer v :: rest) (p : Policy) :
    converse p request s =
      (.ok (Attachment.document v),
        { s.sent request with
          replies := rest
          log := s.log ++ [announcement "Converse" id] }) := by
  unfold converse
  rw [hmodel, Run.bind_apply_ok (Run.ofExcept_apply _ _),
    Run.bind_apply_ok (announce_apply _ _ _),
    Run.bind_apply_ok (submit_answer (by exact h) p "Converse" request)]
  rfl

theorem converse_exhausted {s : Session} {request id : Document}
    (hmodel : modelOf request = .ok id) (h : s.replies = []) (p : Policy) :
    converse p request s =
      (.error (.fault (.runtime "script exhausted")),
        { s.sent request with log := s.log ++ [announcement "Converse" id] }) := by
  unfold converse
  rw [hmodel, Run.bind_apply_ok (Run.ofExcept_apply _ _),
    Run.bind_apply_ok (announce_apply _ _ _),
    Run.bind_apply_error (submit_exhausted (by exact h) p "Converse" request)]
  rfl

end Endpoint

/-! ### What is noted when a request is written -/

namespace Block

theorem source_of_mem_remark? {c : Content} {r : Record} (h : r ∈ (remark? c).toList) :
    r.source = .converse := by
  unfold remark? at h
  split at h
  · dsimp only at h
    split at h
    · simp at h
    · rw [List.mem_singleton.mp h]
  · rw [List.mem_singleton.mp h]
  · simp at h

theorem source_of_mem_remarks {cs : List Content} {r : Record} (h : r ∈ remarks cs) :
    r.source = .converse := by
  induction cs with
  | nil => simp [remarks] at h
  | cons c rest ih =>
      unfold remarks at h
      split at h
      · exact (List.mem_append.mp h).elim source_of_mem_remark? ih
      · simp at h

end Block

namespace Wire

theorem source_of_mem_remarks {ms : List Message} {r : Record} (h : r ∈ remarks ms) :
    r.source = .converse := by
  induction ms with
  | nil => simp [remarks] at h
  | cons m rest ih =>
      unfold remarks at h
      split at h
      · exact ih h
      · split at h
        · exact (List.mem_append.mp h).elim Block.source_of_mem_remarks ih
        · exact Block.source_of_mem_remarks h

theorem source_of_mem_fieldRemarks {o : Options} {r : Record} (h : r ∈ fieldRemarks o) :
    r.source = .options := by
  unfold fieldRemarks at h
  split at h
  · rw [List.mem_singleton.mp h]
  · simp at h

/-- What is noted when a request is written is about messages or about options. -/
theorem source_of_mem_request {vs : List Given} {o : Options} {id : String} {r : Record}
    (h : r ∈ (request vs o id).1) : r.source = .converse ∨ r.source = .options := by
  unfold request at h
  dsimp only at h
  split at h
  · exact .inl (source_of_mem_remarks h)
  · split at h
    · exact .inl (source_of_mem_remarks h)
    · split at h
      · exact .inl (source_of_mem_remarks h)
      · exact (List.mem_append.mp h).imp source_of_mem_remarks source_of_mem_fieldRemarks

end Wire

/-! ### The rounds of a model -/

namespace ChatModel

/-- The request that a model makes of messages, with the model that it is for, and the records about
what it leaves out. -/
def prepared (m : ChatModel) (messages : List Given) (arguments : List (String × Given)) :
    List Record × Except Fault (String × Document) :=
  match m.options arguments with
  | .error f => ([], .error f)
  | .ok o =>
    if messages.isEmpty then ([], .error noMessages)
    else
      match m.modelIdFor o with
      | .error f => ([], .error f)
      | .ok id => ((Wire.request messages o id).1, (Wire.request messages o id).2.map (id, ·))

theorem prepare_eq (m : ChatModel) (messages : List Given) (arguments : List (String × Given)) :
    m.prepare messages arguments = Run.ofLogged (m.prepared messages arguments) := by
  funext s
  have hnone (f : Fault) :
      Run.ofLogged (([] : List Record), (.error f : Except Fault (String × Document))) s =
        (.error (.fault f), s) := by
    rw [Run.ofLogged_apply_error rfl, List.append_nil]
  unfold prepare prepared
  rw [Run.bind_apply, Run.ofExcept_apply]
  cases m.options arguments with
  | error f => exact (hnone f).symm
  | ok o =>
      dsimp only [Outcome.mapError_ok]
      by_cases hempty : messages.isEmpty
      · rw [if_pos hempty, if_pos hempty]
        exact (hnone _).symm
      · rw [if_neg hempty, if_neg hempty, Run.bind_apply, Run.ofExcept_apply]
        cases m.modelIdFor o with
        | error f => exact (hnone f).symm
        | ok id =>
            dsimp only [Outcome.mapError_ok]
            rw [Run.bind_apply, Run.ofLogged_apply, Run.ofLogged_apply]
            cases (Wire.request messages o id).2 <;> rfl

/-- A request that a model can make for arguments. -/
def Makes (m : ChatModel) (arguments : List (String × Given)) (request : Document) : Prop :=
  ∃ o vs id, m.options arguments = .ok o ∧ m.modelIdFor o = .ok id ∧
    (Wire.request vs o id).2 = .ok request

/-- A request is prepared from the options in force, for the model that they name. -/
theorem prepared_ok {m : ChatModel} {messages : List Given}
    {arguments : List (String × Given)} {id : String} {request : Document}
    (h : (m.prepared messages arguments).2 = .ok (id, request)) :
    ∃ o, m.options arguments = .ok o ∧ m.modelIdFor o = .ok id ∧
      (Wire.request messages o id).2 = .ok request := by
  unfold prepared at h
  split at h
  · simp at h
  · rename_i o ho
    split at h
    · simp at h
    · split at h
      · simp at h
      · rename_i id' hid
        obtain ⟨r, hr, heq⟩ := Outcome.map_ok.mp h
        obtain ⟨rfl, rfl⟩ := Prod.mk.inj heq
        exact ⟨o, ho, hid, hr⟩

theorem makes_of_prepared {m : ChatModel} {messages : List Given}
    {arguments : List (String × Given)} {id : String} {request : Document}
    (h : (m.prepared messages arguments).2 = .ok (id, request)) : m.Makes arguments request := by
  obtain ⟨o, ho, hid, hr⟩ := prepared_ok h
  exact ⟨o, messages, id, ho, hid, hr⟩

/-- What a model makes of a conversation is its request. -/
theorem prepared_given {m : ChatModel} {arguments : List (String × Given)} {o : Options}
    {id : String} {ms : List Message} {c : Wire.Conversation}
    (ho : m.options arguments = .ok o) (hid : m.modelIdFor o = .ok id)
    (hconv : Wire.conversation ms = .ok c) (hne : c.messages ≠ []) :
    (m.prepared (Client.given ms) arguments).2 = (Wire.requestOf c o id).map (id, ·) := by
  have hms : (Client.given ms).isEmpty = false := by
    cases ms with
    | nil =>
        obtain rfl := Except.ok.inj hconv
        exact absurd rfl hne
    | cons _ _ => rfl
  have hrequest : (Wire.request (Client.given ms) o id).2 = Wire.requestOf c o id := by
    unfold Wire.request
    rw [Wire.conversationOf_ok.mpr ⟨ms, rfl, hconv⟩]
    dsimp only
    rw [if_neg (by simpa using hne)]
    cases Wire.requestOf c o id <;> rfl
  unfold prepared
  simp only [ho, hms, hid, hrequest]
  rfl

theorem prepared_model {m : ChatModel} {messages : List Given}
    {arguments : List (String × Given)} {id : String} {request : Document}
    (h : (m.prepared messages arguments).2 = .ok (id, request)) :
    Endpoint.modelOf request = .ok (.str id) := by
  obtain ⟨o, -, -, hr⟩ := prepared_ok h
  obtain ⟨-, c, -, -, -, hr⟩ := Wire.request_ok hr
  exact Wire.requestOf_model hr

theorem source_of_mem_prepared {m : ChatModel} {messages : List Given}
    {arguments : List (String × Given)} {r : Record}
    (h : r ∈ (m.prepared messages arguments).1) : r.source = .converse ∨ r.source = .options := by
  unfold prepared at h
  split at h
  · simp at h
  · split at h
    · simp at h
    · split at h
      · simp at h
      · exact Wire.source_of_mem_request h

theorem quiet_prepare (m : ChatModel) (messages : List Given)
    (arguments : List (String × Given)) : Run.Quiet (m.prepare messages arguments) := by
  rw [prepare_eq]
  refine .ofLogged fun r hr => ?_
  rcases source_of_mem_prepared hr with h | h <;>
    exact isQuiet_of_source (by rw [h]; decide) (by rw [h]; decide)

theorem source_of_mem_read {id : String} {reply : Document} {r : Record}
    (h : r ∈ (read id reply).1) : r.source = .converse := by
  unfold read at h
  dsimp only at h
  split at h
  · simp at h
  · unfold Wire.blockRemarks at h
    split at h
    · simp at h
    · dsimp only at h
      obtain ⟨b, -, hb⟩ := List.mem_filterMap.mp h
      unfold Wire.blockRemark? at hb
      split at hb
      · rw [← Option.some.inj hb]
      · simp at hb

/-- **A complete reply takes one round, in which no tool is called.** -/
theorem asks_respond (m : ChatModel) (messages : List Given) (arguments : List (String × Given)) :
    Run.Asks (m.Makes arguments) (m.respond messages arguments) := by
  refine Run.Asks.after (quiet_prepare m messages arguments) fun s a t h => ?_
  obtain ⟨id, request⟩ := a
  rw [prepare_eq] at h
  have hmakes := makes_of_prepared (Run.ofLogged_ok h)
  refine Run.Asks.before (.after (.ofExcept _) fun _ _ _ _ => ?_) fun reply =>
    .ofLogged fun r hr => ?_
  · exact Endpoint.asks_submit _ _ hmakes _ fun _ => .pure _
  · have hsource := source_of_mem_read hr
    exact isQuiet_of_source (by rw [hsource]; decide) (by rw [hsource]; decide)

/-- The records of a request that is made and announced are about no tool. -/
theorem not_tools_of_mem_asking {m : ChatModel} {messages : List Given}
    {arguments : List (String × Given)} {operation : String} {id : Document} {r : Record}
    (h : r ∈ (m.prepared messages arguments).1 ++ [Endpoint.announcement operation id]) :
    r.source ≠ .tools := by
  rcases List.mem_append.mp h with h | h
  · rcases source_of_mem_prepared h with h | h <;> rw [h] <;> decide
  · rw [List.mem_singleton.mp h]
    exact fun heq => Source.noConfusion heq

/-- A model that cannot make its request sends nothing. -/
theorem respond_unprepared {m : ChatModel} {messages : List Given}
    {arguments : List (String × Given)} {f : Fault}
    (h : (m.prepared messages arguments).2 = .error f) (s : Session) :
    m.respond messages arguments s =
      (.error (.fault f), { s with log := s.log ++ (m.prepared messages arguments).1 }) := by
  unfold respond
  rw [prepare_eq, Run.bind_apply_error (Run.ofLogged_apply_error h s)]

/-- A model that is answered has sent one request, and reads the answer. -/
theorem respond_answer {m : ChatModel} {messages : List Given} {arguments : List (String × Given)}
    {id : String} {request : Document} {s : Session} {v : Value Attachment} {rest : List Reply}
    (hrequest : (m.prepared messages arguments).2 = .ok (id, request))
    (h : s.replies = .answer v :: rest) :
    ∃ records, (∀ r ∈ records, r.source ≠ .tools) ∧ m.respond messages arguments s =
      ((read id (Attachment.document v)).2.mapError Halt.fault,
        { s.sent request with replies := rest, log := s.log ++ records }) := by
  refine ⟨(m.prepared messages arguments).1 ++ [Endpoint.announcement "Converse" (.str id)] ++
    (read id (Attachment.document v)).1, fun r hr => ?_, ?_⟩
  · rcases List.mem_append.mp hr with hr | hr
    · exact not_tools_of_mem_asking hr
    · rw [source_of_mem_read hr]
      decide
  · unfold respond
    rw [prepare_eq, Run.bind_apply_ok (Run.ofLogged_apply_ok hrequest s)]
    dsimp only
    rw [Run.bind_apply_ok (Endpoint.converse_answer (prepared_model hrequest) (by exact h)
      m.policy), Run.ofLogged_apply]
    simp only [Session.sent, List.append_assoc]

/-- A model that is not answered has sent its request all the same. -/
theorem respond_exhausted {m : ChatModel} {messages : List Given}
    {arguments : List (String × Given)} {id : String} {request : Document} {s : Session}
    (hrequest : (m.prepared messages arguments).2 = .ok (id, request)) (h : s.replies = []) :
    ∃ records, (∀ r ∈ records, r.source ≠ .tools) ∧ m.respond messages arguments s =
      (.error (.fault (.runtime "script exhausted")),
        { s.sent request with log := s.log ++ records }) := by
  refine ⟨(m.prepared messages arguments).1 ++ [Endpoint.announcement "Converse" (.str id)],
    fun r => not_tools_of_mem_asking, ?_⟩
  unfold respond
  rw [prepare_eq, Run.bind_apply_ok (Run.ofLogged_apply_ok hrequest s)]
  dsimp only
  rw [Run.bind_apply_error (Endpoint.converse_exhausted (prepared_model hrequest) (by exact h)
    m.policy)]
  simp only [Session.sent, List.append_assoc]

/-! ### Reading events -/

theorem source_of_mem_complete {p : Pending} {event : Document} {r : Record}
    (h : r ∈ (p.complete event).notes) : r.source = .converse := by
  unfold Pending.complete at h
  split at h
  · simp at h
  · dsimp only at h
    split at h
    · rw [List.mem_singleton.mp h]
    · simp at h

theorem source_of_mem_feed {a : Accumulator} {event : Document} {r : Record}
    (h : r ∈ (a.feed event).2.notes) : r.source = .converse := by
  unfold Accumulator.feed at h
  dsimp only at h
  split at h
  · split at h <;> simp at h
  · split at h <;> simp at h
  · split at h
    · simp at h
    · split at h
      · simp at h
      · exact source_of_mem_complete h
  · simp at h

/-- Whether a record is one that reading events may write. -/
def IsRemark (r : Record) : Prop := r.source = .converse ∨ r.source = .chat

theorem reports_feed (r : Reading) (event : Document) : Run.Reports IsRemark (r.feed event) :=
  (Run.Reports.ofLogged fun _ hq => .inl (source_of_mem_feed hq)).bind fun _ => .pure _

theorem reports_emit (r : Reading) (u : Update) : Run.Reports IsRemark (r.emit u) :=
  (Run.Reports.emit u).bind fun _ => .pure _

theorem reports_handOn (id : String) (r : Reading) (g : Generation) (event : Document) :
    Run.Reports IsRemark (handOn id r g event) := by
  refine (Run.Reports.ofLogged fun q hq => ?_).bind fun u => reports_emit r u
  unfold updateFor at hq
  dsimp only at hq
  split at hq
  · simp at hq
  · simp at hq
  · simp at hq
  · split at hq
    · simp at hq
    · exact .inr (by rw [List.mem_singleton.mp hq])
  · simp at hq

/-- Reading an event does nothing but hand on updates and write remarks. -/
theorem reports_step (id : String) (r : Reading) (event : Document) :
    Run.Reports IsRemark (step id r event) := by
  unfold step
  dsimp only
  split
  · refine .bind (.note fun q hq => .inr ?_) fun _ => .fail _
    rw [List.mem_singleton.mp hq]
  · split
    · exact (reports_feed r event).bind fun _ => .pure _
    · split
      · refine (reports_feed r event).bind fun ⟨r, call⟩ => ?_
        cases call with
        | none => exact reports_handOn _ _ _ _
        | some c => exact reports_emit _ _
      · exact reports_handOn _ _ _ _

theorem quiet_step (id : String) (r : Reading) (event : Document) :
    Run.Quiet (step id r event) := by
  refine (reports_step id r event).quiet fun q hq => ?_
  rcases hq with h | h <;> exact isQuiet_of_source (by rw [h]; decide) (by rw [h]; decide)

/-- **A reply in events takes one round, in which no tool is called.** -/
theorem asks_stream (m : ChatModel) (messages : List Given) (arguments : List (String × Given)) :
    Run.Asks (m.Makes arguments) (m.stream messages arguments) := by
  refine Run.Asks.after (quiet_prepare m messages arguments) fun s a t h => ?_
  obtain ⟨id, request⟩ := a
  rw [prepare_eq] at h
  have hmakes := makes_of_prepared (Run.ofLogged_ok h)
  refine Run.Asks.before (.after (.ofExcept _) fun _ _ _ _ => ?_) fun _ => .pure _
  refine Endpoint.asks_submit _ _ hmakes _ fun reply =>
    (Run.Quiet.ofExcept _).bind fun ⟨items, n⟩ => ?_
  exact (Endpoint.quiet_readAll (quiet_step id) _ _).finallyDo (.closeStream _)

end ChatModel

end Parley
