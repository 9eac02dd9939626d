/-
What a run leaves behind.

The equations say what each step does to a session: they are how a run on a known
script is followed.  For a run on any script `Run.Quiet` says that a computation
asks nothing of the service and notes nothing about requests or calls, and
`Run.Repeats` that all it sends is one request, perhaps several times over.  Both
are put together step by step.  `Run.Reports` says what a computation is made of,
so that it is gone through once for everything that follows from that.
-/
import Parley.Service.Endpoint

namespace Parley

namespace Session

@[simp] theorem sent_replies (s : Session) (request : Document) :
    (s.sent request).replies = s.replies := rfl

@[simp] theorem sent_requests (s : Session) (request : Document) :
    (s.sent request).requests = s.requests ++ [request] := rfl

@[simp] theorem sent_moments (s : Session) (request : Document) :
    (s.sent request).moments = s.moments ++ [.asked] := rfl

@[simp] theorem sent_closed (s : Session) (request : Document) :
    (s.sent request).closed = s.closed := rfl

@[simp] theorem sent_received (s : Session) (request : Document) :
    (s.sent request).received = s.received := rfl

@[simp] theorem sent_log (s : Session) (request : Document) :
    (s.sent request).log = s.log := rfl

end Session

namespace Run

variable {α β : Type}

/-! ### Steps as equations -/

theorem bind_apply (x : Run α) (f : α → Run β) (s : Session) :
    (x >>= f) s = match x s with
      | (.ok a, t) => f a t
      | (.error h, t) => (.error h, t) := by
  show ExceptT.bindCont f (x s).1 (x s).2 = _
  rcases x s with ⟨e | a, t⟩ <;> rfl

/-- A computation that ended with a value goes on with it. -/
theorem bind_apply_ok {x : Run α} {a : α} {s t : Session} (h : x s = (.ok a, t)) (f : α → Run β) :
    (x >>= f) s = f a t := by
  rw [bind_apply, h]

theorem bind_apply_error {x : Run α} {e : Halt} {s t : Session} (h : x s = (.error e, t))
    (f : α → Run β) : (x >>= f) s = (.error e, t) := by
  rw [bind_apply, h]

/-- A computation that ends with a value went through both of its parts. -/
theorem bind_ok {x : Run α} {f : α → Run β} {b : β} {s t : Session}
    (h : (x >>= f) s = (.ok b, t)) : ∃ a u, x s = (.ok a, u) ∧ f a u = (.ok b, t) := by
  rw [bind_apply] at h
  rcases hx : x s with ⟨e | a, u⟩ <;> rw [hx] at h
  · cases h
  · exact ⟨a, u, rfl, h⟩

theorem bind_pure_apply (x : Run α) (f : α → β) (s : Session) :
    (x >>= fun a => pure (f a)) s = ((x s).1.map f, (x s).2) := by
  rw [bind_apply]
  rcases x s with ⟨r | r, t⟩ <;> rfl

@[simp] theorem pure_apply (a : α) (s : Session) : (pure a : Run α) s = (.ok a, s) := rfl

@[simp] theorem fail_apply (f : Fault) (s : Session) :
    (fail f : Run α) s = (.error (.fault f), s) := rfl

@[simp] theorem get_apply (s : Session) : (get : Run Session) s = (.ok s, s) := rfl

@[simp] theorem modify_apply (f : Session → Session) (s : Session) :
    (modify f : Run Unit) s = (.ok (), f s) := rfl

@[simp] theorem note_apply (records : List Record) (s : Session) :
    note records s = (.ok (), { s with log := s.log ++ records }) := rfl

@[simp] theorem say_apply (level : Level) (source : Source) (text : String) (s : Session) :
    say level source text s = (.ok (), { s with log := s.log ++ [⟨level, source, text⟩] }) := rfl

@[simp] theorem pause_apply (x : Float) (s : Session) :
    pause x s = (.ok (), { s with pauses := s.pauses ++ [x] }) := rfl

theorem ofExcept_apply (e : Except Fault α) (s : Session) :
    ofExcept e s = (e.mapError Halt.fault, s) := by
  cases e <;> rfl

theorem ofExcept_ok {e : Except Fault α} {a : α} {s t : Session}
    (h : ofExcept e s = (.ok a, t)) : e = .ok a ∧ t = s := by
  cases e <;> cases h
  exact ⟨rfl, rfl⟩

theorem ofExcept_bind_ok {e : Except Fault α} {f : α → Run β} {b : β} {s t : Session}
    (h : (ofExcept e >>= f) s = (.ok b, t)) : ∃ a, e = .ok a ∧ f a s = (.ok b, t) := by
  obtain ⟨a, u, he, hf⟩ := bind_ok h
  obtain ⟨ha, hu⟩ := ofExcept_ok he
  rw [hu] at hf
  exact ⟨a, ha, hf⟩

theorem ofLogged_apply (x : List Record × Except Fault α) (s : Session) :
    ofLogged x s = (x.2.mapError Halt.fault, { s with log := s.log ++ x.1 }) := by
  unfold ofLogged
  rw [bind_apply_ok (note_apply _ _), ofExcept_apply]

/-- What was noted on the way to a value is noted, and the value is given. -/
theorem ofLogged_apply_ok {x : List Record × Except Fault α} {a : α} (h : x.2 = .ok a)
    (s : Session) : ofLogged x s = (.ok a, { s with log := s.log ++ x.1 }) := by
  rw [ofLogged_apply, h]
  rfl

theorem ofLogged_apply_error {x : List Record × Except Fault α} {f : Fault} (h : x.2 = .error f)
    (s : Session) : ofLogged x s = (.error (.fault f), { s with log := s.log ++ x.1 }) := by
  rw [ofLogged_apply, h]
  rfl

theorem ofLogged_ok {x : List Record × Except Fault α} {a : α} {s t : Session}
    (h : ofLogged x s = (.ok a, t)) : x.2 = .ok a := by
  rw [ofLogged_apply] at h
  have hvalue := congrArg Prod.fst h
  rcases x with ⟨records, f | b⟩
  · cases hvalue
  · exact congrArg Except.ok (Except.ok.inj hvalue)

theorem onFault_apply (x : Run α) (handler : Fault → Run α) (s : Session) :
    onFault x handler s = match x s with
      | (.ok a, t) => (.ok a, t)
      | (.error (.fault f), t) => handler f t
      | (.error .stopped, t) => (.error .stopped, t) := by
  unfold onFault
  rw [bind_apply_ok (show outcome x s = (.ok (x s).1, (x s).2) from rfl)]
  rcases x s with ⟨(f | _) | a, t⟩ <;> rfl

theorem finallyDo_apply (x : Run α) (after : Run Unit) (s : Session) :
    finallyDo x after s = match after (x s).2 with
      | (.ok _, t) => ((x s).1, t)
      | (.error h, t) => (.error h, t) := by
  unfold finallyDo
  rw [bind_apply_ok (show outcome x s = (.ok (x s).1, (x s).2) from rfl), bind_apply]
  rcases after (x s).2 with ⟨h | _, t⟩
  · rfl
  · cases (x s).1 <;> rfl

theorem finallyDo_apply_ok {x : Run α} {after : Run Unit} {r : Except Halt α} {s t u : Session}
    (hx : x s = (r, t)) (ha : after t = (.ok (), u)) : finallyDo x after s = (r, u) := by
  rw [finallyDo_apply, hx, ha]

theorem emit_apply {s : Session} (h : s.budget = none) (u : Update) :
    emit u s = (.ok (), { s with received := s.received ++ [u] }) := by
  unfold emit
  rw [bind_apply_ok (modify_apply _ s), bind_apply_ok (get_apply _)]
  dsimp only
  rw [h]
  rfl

theorem send_answer {s : Session} {v : Value Attachment} {rest : List Reply}
    (h : s.replies = .answer v :: rest) (request : Document) :
    send request s =
      (.ok v, { s.sent request with replies := rest }) := by
  unfold send
  rw [bind_apply_ok (modify_apply _ s), bind_apply_ok (get_apply _), Session.sent_replies, h]
  rfl

theorem send_failure {s : Session} {f : Fault} {rest : List Reply}
    (h : s.replies = .failure f :: rest) (request : Document) :
    send request s = (.error (.fault f), { s.sent request with replies := rest }) := by
  unfold send
  rw [bind_apply_ok (modify_apply _ s), bind_apply_ok (get_apply _), Session.sent_replies, h]
  rfl

theorem send_open {s : Session} {items : List Delivery} {rest : List Reply}
    (h : s.replies = .stream items false :: rest) (request : Document) :
    send request s =
      (.ok (streamReply items none), { s.sent request with replies := rest }) := by
  unfold send
  rw [bind_apply_ok (modify_apply _ s), bind_apply_ok (get_apply _), Session.sent_replies, h]
  rfl

theorem send_closeable {s : Session} {items : List Delivery} {rest : List Reply}
    (h : s.replies = .stream items true :: rest) (request : Document) :
    send request s =
      (.ok (streamReply items (some s.closed.length)),
        { s.sent request with
          replies := rest
          closed := s.closed ++ [0]
          moments := (s.sent request).moments ++ [.opened s.closed.length] }) := by
  unfold send
  rw [bind_apply_ok (modify_apply _ s), bind_apply_ok (get_apply _), Session.sent_replies, h]
  rfl

theorem send_exhausted {s : Session} (h : s.replies = []) (request : Document) :
    send request s =
      (.error (.fault (.runtime "script exhausted")), s.sent request) := by
  unfold send
  rw [bind_apply_ok (modify_apply _ s), bind_apply_ok (get_apply _), Session.sent_replies, h]
  rfl

end Run

/-! ### Steps that may do anything else -/

namespace Record

/-- Whether a record announces a request. -/
def isAnnouncement (r : Record) : Bool := r.level == .debug && r.source == .api

/-- Whether a record tells that a tool is called. -/
def isInvocation (r : Record) : Bool := r.level == .info && r.source == .tools

/-- Whether a record tells of neither. -/
def isQuiet (r : Record) : Bool := !r.isAnnouncement && !r.isInvocation

end Record

/-- What a run adds to the requests that were sent and to the log. -/
structure Session.Grows (s t : Session) (requests : List Document) (records : List Record) :
    Prop where
  requests : t.requests = s.requests ++ requests
  log : t.log = s.log ++ records

namespace Session.Grows

variable {s t u : Session} {ds es : List Document} {rs qs : List Record}

theorem refl (s : Session) : Grows s s [] [] := ⟨by simp, by simp⟩

theorem trans (h : Grows s t ds rs) (h' : Grows t u es qs) :
    Grows s u (ds ++ es) (rs ++ qs) :=
  ⟨by rw [h'.requests, h.requests, List.append_assoc], by rw [h'.log, h.log, List.append_assoc]⟩

end Session.Grows

namespace Run

variable {α β : Type}

/-- A computation that asks nothing of the service and notes nothing about requests or calls. -/
def Quiet (x : Run α) : Prop :=
  ∀ s, ∃ rs, Session.Grows s (x s).2 [] rs ∧ ∀ r ∈ rs, r.isQuiet = true

/-- A computation that sends one request, once or several times over, and is quiet otherwise. -/
def Repeats (request : Document) (x : Run α) : Prop :=
  ∀ s, ∃ k rs, Session.Grows s (x s).2 (List.replicate (k + 1) request) rs ∧
    ∀ r ∈ rs, r.isQuiet = true

namespace Quiet

theorem of_apply {x : Run α} (h : ∀ s, (x s).2.requests = s.requests ∧ (x s).2.log = s.log) :
    Quiet x :=
  fun s => ⟨[], ⟨by simp [(h s).1], by simp [(h s).2]⟩, by simp⟩

theorem pure (a : α) : Quiet (Pure.pure a : Run α) := of_apply fun _ => ⟨rfl, rfl⟩

theorem fail (f : Fault) : Quiet (Run.fail f : Run α) := of_apply fun _ => ⟨rfl, rfl⟩

theorem ofExcept (e : Except Fault α) : Quiet (Run.ofExcept e) := by
  cases e
  · exact fail _
  · exact pure _

theorem closeStream (number : Option Nat) : Quiet (Run.closeStream number) := by
  cases number
  · exact pure ()
  · exact of_apply fun _ => ⟨rfl, rfl⟩

theorem emit (u : Update) : Quiet (Run.emit u) := by
  refine of_apply fun s => ?_
  unfold Run.emit
  rw [bind_apply_ok (modify_apply _ s), bind_apply_ok (get_apply _)]
  dsimp only
  cases s.budget with
  | none => exact ⟨rfl, rfl⟩
  | some n =>
      dsimp only
      split <;> exact ⟨rfl, rfl⟩

theorem note {records : List Record} (h : ∀ r ∈ records, r.isQuiet = true) :
    Quiet (Run.note records) :=
  fun s => ⟨records, ⟨by simp, rfl⟩, h⟩

theorem bind {x : Run α} {f : α → Run β} (hx : Quiet x) (hf : ∀ a, Quiet (f a)) :
    Quiet (x >>= f) := by
  intro s
  obtain ⟨rs, hgrows, hrs⟩ := hx s
  rw [bind_apply]
  rcases h : x s with ⟨e | a, t⟩
  · rw [h] at hgrows
    exact ⟨rs, hgrows, hrs⟩
  · rw [h] at hgrows
    obtain ⟨qs, hgrows', hqs⟩ := hf a t
    refine ⟨rs ++ qs, hgrows.trans hgrows', fun r hr => ?_⟩
    exact (List.mem_append.mp hr).elim (hrs r) (hqs r)

theorem ofLogged {x : List Record × Except Fault α} (h : ∀ r ∈ x.1, r.isQuiet = true) :
    Quiet (Run.ofLogged x) :=
  (note h).bind fun _ => ofExcept _

theorem onFault {x : Run α} {handler : Fault → Run α} (hx : Quiet x)
    (hh : ∀ f, Quiet (handler f)) : Quiet (Run.onFault x handler) := by
  intro s
  obtain ⟨rs, hgrows, hrs⟩ := hx s
  rw [onFault_apply]
  rcases h : x s with ⟨(f | _) | a, t⟩ <;> rw [h] at hgrows
  · obtain ⟨qs, hgrows', hqs⟩ := hh f t
    refine ⟨rs ++ qs, hgrows.trans hgrows', fun r hr => ?_⟩
    exact (List.mem_append.mp hr).elim (hrs r) (hqs r)
  · exact ⟨rs, hgrows, hrs⟩
  · exact ⟨rs, hgrows, hrs⟩

theorem finallyDo {x : Run α} {after : Run Unit} (hx : Quiet x) (ha : Quiet after) :
    Quiet (Run.finallyDo x after) := by
  intro s
  obtain ⟨rs, hgrows, hrs⟩ := hx s
  obtain ⟨qs, hgrows', hqs⟩ := ha (x s).2
  refine ⟨rs ++ qs, ?_, fun r hr => (List.mem_append.mp hr).elim (hrs r) (hqs r)⟩
  rw [finallyDo_apply]
  rcases h : after (x s).2 with ⟨e | _, t⟩ <;> rw [h] at hgrows' <;> exact hgrows.trans hgrows'

end Quiet

/-- A computation that writes records of one sort and hands on updates, and does nothing else. -/
inductive Reports (P : Record → Prop) : {α : Type} → Run α → Prop
  | pure {α : Type} (a : α) : Reports P (Pure.pure a : Run α)
  | fail {α : Type} (f : Fault) : Reports P (Run.fail f : Run α)
  | note {records : List Record} (h : ∀ r ∈ records, P r) : Reports P (Run.note records)
  | emit (u : Update) : Reports P (Run.emit u)
  | bind {α β : Type} {x : Run α} {f : α → Run β} (hx : Reports P x) (hf : ∀ a, Reports P (f a)) :
      Reports P (x >>= f)

namespace Reports

variable {P : Record → Prop}

theorem ofLogged {x : List Record × Except Fault α} (h : ∀ r ∈ x.1, P r) :
    Reports P (Run.ofLogged x) := by
  refine (note h).bind fun _ => ?_
  cases x.2 with
  | error f => exact fail f
  | ok a => exact pure a

theorem quiet {x : Run α} (h : Reports P x) (hP : ∀ r, P r → r.isQuiet = true) : Quiet x := by
  induction h with
  | pure a => exact .pure a
  | fail f => exact .fail f
  | note h => exact .note fun r hr => hP r (h r hr)
  | emit u => exact .emit u
  | bind _ _ hx hf => exact hx.bind hf

end Reports

namespace Repeats

variable {request : Document}

theorem send (request : Document) : Repeats request (Run.send request) := by
  intro s
  refine ⟨0, [], ?_, by simp⟩
  unfold Run.send
  rw [bind_apply_ok (modify_apply _ s), bind_apply_ok (get_apply _), Session.sent_replies]
  rcases s.replies with _ | ⟨_ | ⟨_, _ | _⟩ | _, _⟩ <;> exact ⟨rfl, (List.append_nil _).symm⟩

theorem onFault {x : Run α} {handler : Fault → Run α} (hx : Repeats request x)
    (hh : ∀ f, Quiet (handler f) ∨ Repeats request (handler f)) :
    Repeats request (Run.onFault x handler) := by
  intro s
  obtain ⟨k, rs, hgrows, hrs⟩ := hx s
  rw [onFault_apply]
  rcases h : x s with ⟨(f | _) | a, t⟩ <;> rw [h] at hgrows
  · rcases hh f with hquiet | hmore
    · obtain ⟨qs, hgrows', hqs⟩ := hquiet t
      refine ⟨k, rs ++ qs, by simpa using hgrows.trans hgrows', fun r hr => ?_⟩
      exact (List.mem_append.mp hr).elim (hrs r) (hqs r)
    · obtain ⟨k', qs, hgrows', hqs⟩ := hmore t
      refine ⟨k + 1 + k', rs ++ qs, ?_, fun r hr => ?_⟩
      · rw [show k + 1 + k' + 1 = (k + 1) + (k' + 1) by omega, ← List.replicate_append_replicate]
        exact hgrows.trans hgrows'
      · exact (List.mem_append.mp hr).elim (hrs r) (hqs r)
  · exact ⟨k, rs, hgrows, hrs⟩
  · exact ⟨k, rs, hgrows, hrs⟩

end Repeats

end Run

end Parley
