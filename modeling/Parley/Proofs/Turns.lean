/-
What a run does with a script of turns.

`Run.Still` says that a computation asks for nothing and neither opens nor closes a
stream; if the consumer leaves in it, that is its last moment.  `Run.Serves` says what
a computation makes of the turns that the service has ready: which it takes, what
moments there are on the way, and how the streams stand when it ends.  Both are put
together step by step.

A request that fails may be sent again.  `Endpoint.Asked` says that this is over once
a stream is handed out.
-/
import Mathlib.Data.List.Infix
import Parley.Proofs.Moments
import Parley.Proofs.Service

namespace Parley

/-! ### Scripts of turns -/

/-- Whether reading breaks off at something that a stream delivers: an error, or an event that
reports one. -/
def Delivery.fails : Delivery → Bool
  | .failure _ => true
  | .event e => (EventKind.ofEvent e).isFailure

namespace Reply

/-- Whether a reply is a turn: an event stream, or a fault in the place of one. -/
def isTurn : Reply → Bool
  | .answer _ => false
  | .stream _ _ | .failure _ => true

/-- Whether a reply is a stream that has to be closed. -/
def opens : Reply → Bool
  | .stream _ closeable => closeable
  | .answer _ | .failure _ => false

/-- Whether a reply is a stream that cannot be read to its end. -/
def fails : Reply → Bool
  | .stream items _ => items.any Delivery.fails
  | .answer _ | .failure _ => false

end Reply

/-! ### How a run ends -/

/-- How a run ends: with a value, with a fault, or because its consumer has left. -/
inductive Exit where
  | value
  | fault
  | stopped
  deriving DecidableEq, Repr

namespace Exit

/-- How a run has ended, from what came of it. -/
def of {α : Type} : Except Halt α → Exit
  | .ok _ => .value
  | .error (.fault _) => .fault
  | .error .stopped => .stopped

/-- Whether the consumer has left. -/
def isStop (e : Exit) : Bool := e == .stopped

/-- The moment at which the consumer has left, if it has: nothing was noted after it. -/
def departure (e : Exit) (s : Session) : List Moment :=
  match e with
  | .value | .fault => []
  | .stopped => [.left s.log.length]

theorem of_error {α β : Type} (h : Halt) :
    of (.error h : Except Halt α) = of (.error h : Except Halt β) := by
  cases h <;> rfl

theorem leads_departure (e : Exit) (s : Session) (n : Nat) (reading : Bool) :
    Stand.Leads ⟨n, reading, false⟩ (e.departure s) ⟨n, reading, e.isStop⟩ := by
  cases e with
  | value | fault => exact .nil _
  | stopped => exact .cons (.left n reading _) (.nil _)

@[simp] theorem count_asked_departure (e : Exit) (s : Session) :
    (e.departure s).count .asked = 0 := by
  cases e <;> simp [departure]

theorem log_of_left {e : Exit} {s : Session} {records : Nat}
    (h : .left records ∈ e.departure s) : s.log.length = records := by
  cases e with
  | value | fault => simp [departure] at h
  | stopped => simpa [departure, eq_comm] using h

end Exit

/-! ### Steps that ask for nothing -/

/-- Nothing is asked for, opened or closed between two sessions. -/
structure Session.Rests (s t : Session) (ms : List Moment) : Prop where
  replies : t.replies = s.replies
  requests : t.requests = s.requests
  closed : t.closed = s.closed
  moments : t.moments = s.moments ++ ms

theorem Session.Rests.trans {s t u : Session} {ms more : List Moment} (h : Rests s t ms)
    (h' : Rests t u more) : Rests s u (ms ++ more) where
  replies := h'.replies.trans h.replies
  requests := h'.requests.trans h.requests
  closed := h'.closed.trans h.closed
  moments := by rw [h'.moments, h.moments, List.append_assoc]

namespace Run

variable {α β : Type}

/-- A computation that asks for nothing and neither opens nor closes a stream.  The consumer may
leave, and then it is at its end. -/
def Still (x : Run α) : Prop :=
  ∀ s : Session, s.Rests (x s).2 ((Exit.of (x s).1).departure (x s).2)

namespace Still

theorem pure (a : α) : Still (Pure.pure a : Run α) :=
  fun _ => ⟨rfl, rfl, rfl, (List.append_nil _).symm⟩

theorem fail (f : Fault) : Still (Run.fail f : Run α) :=
  fun _ => ⟨rfl, rfl, rfl, (List.append_nil _).symm⟩

theorem note (records : List Record) : Still (Run.note records) :=
  fun _ => ⟨rfl, rfl, rfl, (List.append_nil _).symm⟩

theorem stop : Still (Run.stop : Run α) := fun _ => ⟨rfl, rfl, rfl, rfl⟩

theorem ofExcept (e : Except Fault α) : Still (Run.ofExcept e) := by
  cases e with
  | error f => exact fail f
  | ok a => exact pure a

theorem bind {x : Run α} {f : α → Run β} (hx : Still x) (hf : ∀ a, Still (f a)) :
    Still (x >>= f) := by
  intro s
  have hrests := hx s
  rw [bind_apply]
  rcases h : x s with ⟨e | a, t⟩ <;> rw [h] at hrests
  · rw [Exit.of_error (β := α)]
    exact hrests
  · exact hrests.trans (hf a t)

theorem ofLogged (x : List Record × Except Fault α) : Still (Run.ofLogged x) :=
  (note x.1).bind fun _ => ofExcept x.2

theorem emit (u : Update) : Still (Run.emit u) := by
  refine bind (fun s => ⟨rfl, rfl, rfl, (List.append_nil _).symm⟩) fun _ => ?_
  refine bind (fun s => ⟨rfl, rfl, rfl, (List.append_nil _).symm⟩) fun s => ?_
  cases s.budget with
  | none => exact pure ()
  | some n =>
      dsimp only
      split
      · exact stop
      · exact pure ()

end Still

theorem Reports.still {P : Record → Prop} {x : Run α} (h : Reports P x) : Still x := by
  induction h with
  | pure a => exact .pure a
  | fail f => exact .fail f
  | note _ => exact .note _
  | emit u => exact .emit u
  | bind _ _ hx hf => exact hx.bind hf

end Run

/-! ### What a run comes to on a script of turns -/

namespace Session

/-- Whether the service has nothing but turns ready. -/
def HasTurns (s : Session) : Prop := ∀ reply ∈ s.replies, reply.isTurn = true

/-- What lies between two sessions: the turns that the service has given, and the moments. -/
structure Serves (s t : Session) (e : Exit) (taken : List Reply) (ms : List Moment) : Prop where
  replies : s.replies = taken ++ t.replies
  requests : t.requests.length = s.requests.length + ms.count .asked
  moments : t.moments = s.moments ++ ms
  closed : t.closed = s.closed ++ List.replicate (taken.countP Reply.opens) 1
  leads : Stand.Leads ⟨s.closed.length, false, false⟩ ms ⟨t.closed.length, false, e.isStop⟩
  /-- A value comes only of streams that were read to their ends, one for each request. -/
  finished : e = .value → ms.count .asked = taken.length ∧ ∀ reply ∈ taken, reply.fails = false
  /-- Nothing is taken after a stream that fails. -/
  sound : ∀ reply ∈ taken.dropLast, reply.fails = false
  /-- Nor is a request sent in vain. -/
  broken : (∃ reply ∈ taken, reply.fails = true) → ms.count .asked = taken.length
  left : ∀ records, .left records ∈ ms → t.log.length = records

variable {s t u : Session} {e : Exit} {taken more : List Reply} {ms ns : List Moment}

theorem Rests.serves (h : Rests s t (e.departure t)) : Serves s t e [] (e.departure t) where
  replies := h.replies.symm
  requests := by rw [h.requests, Exit.count_asked_departure, Nat.add_zero]
  moments := h.moments
  closed := by rw [h.closed]; exact (List.append_nil _).symm
  leads := by
    rw [h.closed]
    exact e.leads_departure t _ false
  finished := fun _ => ⟨by simp, by simp⟩
  sound := by simp
  broken := by simp
  left := fun _ => Exit.log_of_left

namespace Serves

theorem hasTurns (h : Serves s t e taken ms) (hs : s.HasTurns) : t.HasTurns :=
  fun reply hreply => hs reply (by rw [h.replies]; exact List.mem_append_right _ hreply)

/-- A run that has given a value may go on. -/
theorem trans (h : Serves s t .value taken ms) (h' : Serves t u e more ns) :
    Serves s u e (taken ++ more) (ms ++ ns) := by
  obtain ⟨hcount, hsound⟩ := h.finished rfl
  refine
    { replies := by rw [h.replies, h'.replies, List.append_assoc]
      requests := by rw [h'.requests, h.requests, List.count_append, Nat.add_assoc]
      moments := by rw [h'.moments, h.moments, List.append_assoc]
      closed := by
        rw [h'.closed, h.closed, List.append_assoc, List.countP_append,
          List.replicate_append_replicate]
      leads := h.leads.append h'.leads
      finished := fun he => ?_
      sound := ?_
      broken := ?_
      left := ?_ }
  · obtain ⟨hcount', hsound'⟩ := h'.finished he
    exact ⟨by rw [List.count_append, List.length_append, hcount, hcount'], fun reply hreply =>
      (List.mem_append.mp hreply).elim (hsound reply) (hsound' reply)⟩
  · intro reply hreply
    by_cases hmore : more = []
    · subst hmore
      rw [List.append_nil] at hreply
      exact h.sound reply hreply
    · rw [List.dropLast_append_of_ne_nil hmore] at hreply
      exact (List.mem_append.mp hreply).elim (hsound reply) (h'.sound reply)
  · rintro ⟨reply, hreply, hfails⟩
    have hmem : reply ∈ more := (List.mem_append.mp hreply).resolve_left fun hmem => by
      rw [hsound reply hmem] at hfails
      exact Bool.false_ne_true hfails
    rw [List.count_append, List.length_append, hcount, h'.broken ⟨reply, hmem, hfails⟩]
  · intro records hrecords
    -- A consumer who had left in the first part would be gone, and there would be no second one.
    refine (List.mem_append.mp hrecords).elim (fun hms => ?_) (h'.left records)
    exact absurd (h.leads.gone_of_left hms) Bool.false_ne_true

/-- A stream that fails is the last one, its request is the last one, and there is no value. -/
theorem last_of_fails (h : Serves s t e taken ms) {before after : List Reply} {reply : Reply}
    (htaken : taken = before ++ reply :: after) (hfails : reply.fails = true) :
    after = [] ∧ ms.count .asked = before.length + 1 ∧ e ≠ .value := by
  have hmem : reply ∈ taken := by simp [htaken]
  have hlast : after = [] := by
    by_contra hafter
    have hfront : reply ∈ taken.dropLast := by
      rw [htaken, List.dropLast_append_of_ne_nil (List.cons_ne_nil _ _),
        List.dropLast_cons_of_ne_nil hafter]
      simp
    rw [h.sound reply hfront] at hfails
    exact Bool.false_ne_true hfails
  refine ⟨hlast, ?_, fun hvalue => ?_⟩
  · rw [h.broken ⟨reply, hmem, hfails⟩, htaken, hlast, List.length_append]
    rfl
  · rw [(h.finished hvalue).2 reply hmem] at hfails
    exact Bool.false_ne_true hfails

/-- A run is stopped exactly if its consumer has left on the way. -/
theorem stopped_iff (h : Serves s t e taken ms) :
    e = .stopped ↔ ∃ records, .left records ∈ ms := by
  constructor
  · rintro rfl
    exact h.leads.left_of_gone rfl rfl
  · rintro ⟨records, hrecords⟩
    exact eq_of_beq (h.leads.gone_of_left hrecords)

end Serves

end Session

namespace Run

variable {α β : Type}

/-- A computation that leaves every stream of a script of turns closed, one before the next. -/
def Serves (x : Run α) : Prop :=
  ∀ s : Session, s.HasTurns → ∃ taken ms, s.Serves (x s).2 (Exit.of (x s).1) taken ms

theorem Still.serves {x : Run α} (h : Still x) : Serves x := fun s _ => ⟨_, _, (h s).serves⟩

theorem Serves.bind {x : Run α} {f : α → Run β} (hx : Serves x) (hf : ∀ a, Serves (f a)) :
    Serves (x >>= f) := by
  intro s hs
  obtain ⟨taken, ms, hserves⟩ := hx s hs
  rw [bind_apply]
  rcases h : x s with ⟨e | a, t⟩ <;> rw [h] at hserves
  · rw [Exit.of_error (β := α)]
    exact ⟨taken, ms, hserves⟩
  · obtain ⟨more, ns, hserves'⟩ := hf a t (hserves.hasTurns hs)
    exact ⟨_, _, hserves.trans hserves'⟩

end Run

/-! ### Asking for a stream -/

/-- Nothing but requests that failed lies between two sessions. -/
structure Session.Retries (s t : Session) (k : Nat) (failures : List Reply) : Prop where
  replies : s.replies = failures ++ t.replies
  failures : ∀ reply ∈ failures, ∃ f, reply = .failure f
  requests : t.requests.length = s.requests.length + k
  closed : t.closed = s.closed
  moments : t.moments = s.moments ++ List.replicate k .asked

namespace Session.Retries

variable {s t u : Session} {k j : Nat} {failures more : List Reply}

theorem refl (s : Session) : Retries s s ([] : List Reply).length [] :=
  ⟨rfl, by simp, rfl, rfl, (List.append_nil _).symm⟩

theorem trans (h : Retries s t k failures) (h' : Retries t u j more) :
    Retries s u (k + j) (failures ++ more) where
  replies := by rw [h.replies, h'.replies, List.append_assoc]
  failures := fun reply hreply =>
    (List.mem_append.mp hreply).elim (h.failures reply) (h'.failures reply)
  requests := by rw [h'.requests, h.requests, Nat.add_assoc]
  closed := h'.closed.trans h.closed
  moments := by
    rw [h'.moments, h.moments, List.append_assoc, List.replicate_append_replicate]

theorem paused (h : Retries s t k failures) (x : Float) :
    Retries s { t with pauses := t.pauses ++ [x] } k failures := { h with }

theorem noted (h : Retries s t k failures) (records : List Record) :
    Retries s { t with log := t.log ++ records } k failures := { h with }

theorem hasTurns (h : Retries s t k failures) (hs : s.HasTurns) : t.HasTurns :=
  fun reply hreply => hs reply (by rw [h.replies]; exact List.mem_append_right _ hreply)

theorem not_fails (h : Retries s t k failures) : ∀ reply ∈ failures, reply.fails = false := by
  intro reply hreply
  obtain ⟨f, rfl⟩ := h.failures reply hreply
  rfl

theorem countP_opens (h : Retries s t k failures) : failures.countP Reply.opens = 0 := by
  rw [List.countP_eq_zero]
  intro reply hreply
  obtain ⟨f, rfl⟩ := h.failures reply hreply
  exact Bool.false_ne_true

/-- After failures there may be a fault; there may be more to come if each request had one. -/
theorem serves (h : Retries s t k failures) {e : Exit} (he : e ≠ .stopped)
    (hk : e = .value → k = failures.length) :
    Serves s t e failures (List.replicate k .asked) where
  replies := h.replies
  requests := by rw [h.requests, List.count_replicate_self]
  moments := h.moments
  closed := by rw [h.closed, h.countP_opens]; exact (List.append_nil _).symm
  leads := by
    have hstop : e.isStop = false := by simpa [Exit.isStop] using he
    rw [h.closed, hstop]
    exact Stand.leads_asked _ k
  finished := fun hvalue => ⟨by rw [List.count_replicate_self, hk hvalue], h.not_fails⟩
  sound := fun reply hreply => h.not_fails reply (List.mem_of_mem_dropLast hreply)
  broken := by
    rintro ⟨reply, hreply, hfails⟩
    rw [h.not_fails reply hreply] at hfails
    exact absurd hfails Bool.false_ne_true
  left := fun records hrecords => by simp [List.mem_replicate] at hrecords

end Session.Retries

namespace Run

/-- What is asked for fails, or the next reply is a stream. -/
theorem send_turn {s : Session} (hs : s.HasTurns) (request : Document) :
    (∃ f t k failures, send request s = (.error (.fault f), t) ∧ s.Retries t k failures ∧
      (Policy.mayPass f = true → k = failures.length)) ∨
    ∃ items closeable rest, s.replies = .stream items closeable :: rest := by
  rcases h : s.replies with _ | ⟨v | ⟨items, closeable⟩ | f, rest⟩
  · exact .inl ⟨_, _, 1, [], send_exhausted h request, ⟨rfl, by simp, by simp, rfl, rfl⟩,
      fun hpass => absurd hpass Bool.false_ne_true⟩
  · have hturn := hs (.answer v) (by rw [h]; exact List.mem_cons_self)
    exact absurd hturn Bool.false_ne_true
  · exact .inr ⟨items, closeable, rest, rfl⟩
  · exact .inl ⟨f, _, 1, [.failure f], send_failure h request, ⟨h, by simp, by simp, rfl, rfl⟩,
      fun _ => rfl⟩

theorem send_stream_ok {s : Session} {items : List Delivery} {closeable : Bool} {rest : List Reply}
    (h : s.replies = .stream items closeable :: rest) (request : Document) :
    ∃ v t, send request s = (.ok v, t) := by
  cases closeable with
  | false => exact ⟨_, _, send_open h request⟩
  | true => exact ⟨_, _, send_closeable h request⟩

end Run

namespace Endpoint

/-- Asking ends with a fault, or it comes to a stream after some failures: it is then as if the last
request had been the only one. -/
inductive Asked (request : Document) (s : Session) (x : Run (Value Attachment)) : Prop
  | refused {f : Fault} {t : Session} {k : Nat} {failures : List Reply}
      (hretries : s.Retries t k failures) (h : x s = (.error (.fault f), t)) : Asked request s x
  | served {t : Session} {failures : List Reply} {items : List Delivery} {closeable : Bool}
      {rest : List Reply} (hretries : s.Retries t failures.length failures)
      (hready : t.replies = .stream items closeable :: rest)
      (h : x s = Run.send request t) : Asked request s x

variable {request : Document} {s t : Session}

/-- Asking that goes on after failures. -/
theorem Asked.after {x y : Run (Value Attachment)} {failures : List Reply}
    (hretries : s.Retries t failures.length failures) (h : Asked request t y) (hxy : x s = y t) :
    Asked request s x := by
  cases h with
  | refused hmore hy => exact .refused (hretries.trans hmore) (hxy.trans hy)
  | @served u more _ _ _ hmore hready hy =>
      have hall : s.Retries u (failures ++ more).length (failures ++ more) := by
        rw [List.length_append]
        exact hretries.trans hmore
      exact .served hall hready (hxy.trans hy)

/-- However often it is tried, asking ends with a fault or comes to a stream. -/
theorem asked_attempt (p : Policy) (request : Document) (left : Nat) :
    ∀ (k : Nat) (s : Session), s.HasTurns →
      Asked request s (p.attempt (Run.send request) k left) := by
  induction left with
  | zero =>
      intro k s hs
      rcases Run.send_turn hs request with ⟨f, t, j, failures, hsend, hretries, -⟩ |
        ⟨items, closeable, rest, hready⟩
      · exact .refused hretries hsend
      · exact .served (.refl s) hready rfl
  | succ left ih =>
      intro k s hs
      rcases Run.send_turn hs request with ⟨f, t, j, failures, hsend, hretries, hpass⟩ |
        ⟨items, closeable, rest, hready⟩
      · by_cases hf : Policy.mayPass f = true
        -- A fault that may pass has taken a reply, which an exhausted script has none of.
        · obtain rfl := hpass hf
          have hpaused := hretries.paused (p.wait k)
          refine (ih (k + 1) _ (hpaused.hasTurns hs)).after hpaused ?_
          rw [Policy.attempt, Run.onFault_apply, hsend]
          dsimp only
          rw [if_pos hf]
          rfl
        · exact .refused hretries (attempt_apply_error hsend (by simpa using hf) p k (left + 1))
      · obtain ⟨v, t, hsend⟩ := Run.send_stream_ok hready request
        exact .served (.refl s) hready ((attempt_apply_ok hsend p k (left + 1)).trans hsend.symm)

/-- A refusal that is reported ends with the same fault. -/
theorem refuse_apply {α : Type} (operation : String) (f : Fault) (s : Session) :
    ∃ records, (do noteRefusal operation f; Run.fail f : Run α) s =
      (.error (.fault f), { s with log := s.log ++ records }) := by
  unfold noteRefusal
  split
  · exact ⟨_, rfl⟩
  · exact ⟨[], by rw [List.append_nil]; rfl⟩

theorem asked_submit (p : Policy) (operation : String) (request : Document) (hs : s.HasTurns) :
    Asked request s (submit p operation request) := by
  have hsubmit := Run.onFault_apply (p.retrying (Run.send request))
    (fun f => do noteRefusal operation f; Run.fail f) s
  cases asked_attempt p request (p.attempts.toNat - 1) 0 s hs with
  | @refused f t k failures hretries h =>
      obtain ⟨records, hrefuse⟩ := refuse_apply (α := Value Attachment) operation f t
      rw [show p.retrying (Run.send request) s = _ from h] at hsubmit
      exact .refused (hretries.noted records) (hsubmit.trans hrefuse)
  | @served t failures items closeable rest hretries hready h =>
      obtain ⟨v, u, hsend⟩ := Run.send_stream_ok hready request
      rw [show p.retrying (Run.send request) s = _ from h.trans hsend] at hsubmit
      exact .served hretries hready (hsubmit.trans hsend.symm)

end Endpoint

end Parley
