/-
The streams of a run are closed.

Reading a stream asks for nothing more, and however it ends, the stream is closed
before anything else is done.  The loop over the turns adds nothing to that, so
whatever the turns bring and whenever the consumer leaves, the moments of a run are in
order.
-/
import Parley.Proofs.Dialogue
import Parley.Proofs.Events
import Parley.Proofs.Turns

namespace Parley

/-! ### Reading a stream -/

namespace Endpoint

/-- A step of reading that asks for nothing and does not get past an event that reports an error. -/
structure Reads {σ : Type} (step : σ → Document → Run σ) : Prop where
  still : ∀ acc e, Run.Still (step acc e)
  breaks : ∀ acc e s, (EventKind.ofEvent e).isFailure = true → Exit.of (step acc e s).1 ≠ .value

namespace Reads

variable {σ : Type} {step : σ → Document → Run σ}

theorem still_readAll (h : Reads step) (items : List Delivery) :
    ∀ acc, Run.Still (readAll step items acc) := by
  induction items with
  | nil => exact fun acc => .pure acc
  | cons item rest ih =>
      intro acc
      cases item with
      | event e => exact (h.still acc e).bind ih
      | failure f =>
          intro s
          obtain ⟨records, hrefuse⟩ := refuse_apply (α := σ) "ConverseStream" f s
          rw [show readAll step (.failure f :: rest) acc s = _ from hrefuse]
          exact ⟨rfl, rfl, rfl, (List.append_nil _).symm⟩

/-- What has been read to its end had nothing in it that fails. -/
theorem not_fails (h : Reads step) (items : List Delivery) :
    ∀ acc s, Exit.of (readAll step items acc s).1 = .value →
      items.any Delivery.fails = false := by
  induction items with
  | nil => exact fun _ _ _ => rfl
  | cons item rest ih =>
      intro acc s hvalue
      cases item with
      | event e =>
          rw [readAll, Run.bind_apply] at hvalue
          have hbreaks := h.breaks acc e s
          rcases hstep : step acc e s with ⟨f | b, t⟩ <;> rw [hstep] at hvalue hbreaks
          · cases f <;> cases hvalue
          · have hpasses : (EventKind.ofEvent e).isFailure = false :=
              Bool.eq_false_iff.mpr fun hf => hbreaks hf rfl
            rw [List.any_cons, ih b t hvalue, Bool.or_false]
            exact hpasses
      | failure f =>
          obtain ⟨records, hrefuse⟩ := refuse_apply (α := σ) "ConverseStream" f s
          rw [show readAll step (.failure f :: rest) acc s = _ from hrefuse] at hvalue
          cases hvalue

end Reads

end Endpoint

namespace Session.Serves

variable {s t : Session} {e : Exit} {items : List Delivery} {rest : List Reply}
  {request : Document} {ms : List Moment}

/-- Nothing but one stream, for which one request was sent, lies between two sessions. -/
theorem of_stream {closeable : Bool} (hreplies : s.replies = .stream items closeable :: t.replies)
    (hrequests : t.requests.length = s.requests.length + 1)
    (hmoments : t.moments = s.moments ++ ms) (hcount : ms.count .asked = 1)
    (hclosed : t.closed = s.closed ++ if closeable then [1] else [])
    (hleads : Stand.Leads ⟨s.closed.length, false, false⟩ ms ⟨t.closed.length, false, e.isStop⟩)
    (hread : e = .value → items.any Delivery.fails = false)
    (hleft : ∀ records, .left records ∈ ms → t.log.length = records) :
    Serves s t e [.stream items closeable] ms where
  replies := hreplies
  requests := by rw [hrequests, hcount]
  moments := hmoments
  closed := by rw [hclosed]; cases closeable <;> rfl
  leads := hleads
  finished := fun he => ⟨hcount, fun reply hreply => by
    rw [List.mem_singleton.mp hreply]
    exact hread he⟩
  sound := by simp
  broken := fun _ => hcount
  left := hleft

/-- A stream that needs no closing is read. -/
theorem of_open (hs : s.replies = .stream items false :: rest)
    (h : Rests { s.sent request with replies := rest } t (e.departure t))
    (hread : e = .value → items.any Delivery.fails = false) :
    Serves s t e [.stream items false] (.asked :: e.departure t) := by
  refine .of_stream ?_ ?_ ?_ ?_ (h.closed.trans (List.append_nil _).symm) ?_ hread ?_
  · rw [h.replies, hs]
  · rw [h.requests]
    simp
  · rw [h.moments]
    simp
  · simp
  · rw [h.closed]
    exact .cons (.asked _) (e.leads_departure t _ false)
  · exact fun records hrecords => Exit.log_of_left (by simpa using hrecords)

/-- A stream that has to be closed is read, and then closed. -/
theorem of_closeable (hs : s.replies = .stream items true :: rest)
    (h : Rests
      { s.sent request with
        replies := rest
        closed := s.closed ++ [0]
        moments := (s.sent request).moments ++ [.opened s.closed.length] } t (e.departure t))
    (hread : e = .value → items.any Delivery.fails = false) :
    Serves s (Run.closeStream (some s.closed.length) t).2 e [.stream items true]
      (.asked :: .opened s.closed.length :: (e.departure t ++ [.closed s.closed.length])) := by
  have hclosed : (Run.closeStream (some s.closed.length) t).2.closed = s.closed ++ [1] := by
    show t.closed.modify _ _ = _
    rw [h.closed]
    simp [List.modify_eq_set_getElem?]
  refine .of_stream ?_ ?_ ?_ ?_ hclosed ?_ hread ?_
  · rw [hs]
    exact congrArg _ h.replies.symm
  · show t.requests.length = _
    rw [h.requests]
    simp
  · show t.moments ++ [.closed s.closed.length] = _
    rw [h.moments]
    simp
  · simp
  · rw [hclosed, List.length_append]
    exact .cons (.asked _) (.cons (.opened _)
      ((e.leads_departure t _ true).append (.cons (.closed _ _) (.nil _))))
  · intro records hrecords
    exact Exit.log_of_left (e := e) (s := t) (by simpa using hrecords)

end Session.Serves

namespace Endpoint

variable {σ : Type} {step : σ → Document → Run σ}

/-- A stream that was handed out is closed however the reading ends. -/
theorem read_apply (items : List Delivery) (number : Option Nat) (start : σ) (s : Session) :
    (Run.ofExcept (deliveries (Run.streamReply items number)) >>= fun (items, number) =>
      (readAll step items start).finallyDo (Run.closeStream number)) s =
    ((readAll step items start s).1,
      (Run.closeStream number (readAll step items start s).2).2) := by
  rw [show deliveries (Run.streamReply items number) = .ok (items, number) from rfl,
    Run.bind_apply_ok (Run.ofExcept_apply _ _)]
  refine Run.finallyDo_apply_ok rfl ?_
  cases number <;> rfl

/-- **A stream that is handed out is read and closed before anything else is asked for.** -/
theorem serves_stream (h : Reads step) (p : Policy) (request : Document) (start : σ) :
    Run.Serves (stream p request step start) := by
  refine (Run.Still.ofExcept _).serves.bind fun id => ?_
  refine (Run.Still.note _).serves.bind fun _ => fun s hs => ?_
  cases asked_submit p "ConverseStream" request hs with
  | refused hretries hasked =>
      rw [Run.bind_apply_error hasked]
      exact ⟨_, _, hretries.serves (by simp [Exit.of]) (by simp [Exit.of])⟩
  | @served _ _ items closeable _ hretries hready hasked =>
      -- The failures came one for each request, so the turn begins behind them.
      have hfirst := hretries.serves (e := .value) (by decide) fun _ => rfl
      have hrest (t : Session) := h.still_readAll items start t
      cases closeable with
      | false =>
          rw [Run.bind_apply_ok (hasked.trans (Run.send_open hready request)), read_apply]
          exact ⟨_, _, hfirst.trans (.of_open hready (hrest _) (h.not_fails items start _))⟩
      | true =>
          rw [Run.bind_apply_ok (hasked.trans (Run.send_closeable hready request)), read_apply]
          exact ⟨_, _, hfirst.trans (.of_closeable hready (hrest _) (h.not_fails items start _))⟩

end Endpoint

/-! ### The runs of a model -/

namespace ChatModel

theorem reads_step (id : String) : Endpoint.Reads (step id) where
  still := fun r event => (reports_step id r event).still
  breaks := by
    intro r event s hfails
    unfold step
    dsimp only
    rw [Generation.kind_ofEvent, if_pos hfails]
    exact Exit.noConfusion

/-- A model leaves the stream of its turn closed. -/
theorem serves_stream (m : ChatModel) (messages : List Given) (arguments : List (String × Given)) :
    Run.Serves (m.stream messages arguments) := by
  unfold stream
  rw [prepare_eq]
  refine (Run.Still.ofLogged _).serves.bind fun ⟨id, request⟩ => ?_
  exact (Endpoint.serves_stream (reads_step id) _ _ _).bind fun _ => (Run.Still.pure _).serves

end ChatModel

namespace Client

variable {c : Client}

/-- Between its turns the loop neither opens nor closes anything. -/
theorem serves_streamFrom
    (h : ∀ messages arguments, Run.Serves (c.stream messages arguments)) (limit : Int)
    (arguments : List (String × Given)) (n : Nat) :
    ∀ messages, Run.Serves (streamFrom c limit arguments n messages) := by
  induction n with
  | zero =>
      intro messages
      exact (Run.Still.note _).serves.bind fun _ => h _ _
  | succ n ih =>
      intro messages
      refine (h _ _).bind fun us => ?_
      split
      · exact (Run.Still.pure us).serves
      · dsimp only
        split
        · exact (Run.Still.pure us).serves
        · refine (Run.Still.ofLogged _).serves.bind fun results => ?_
          refine (Run.Still.emit _).serves.bind fun _ => ?_
          exact (ih _).bind fun _ => (Run.Still.pure _).serves

theorem still_refuseMisnamed (arguments : List (String × Given)) :
    Run.Still (refuseMisnamed arguments) := by
  unfold refuseMisnamed
  split
  · exact .fail _
  · exact .pure ()

theorem serves_looped (h : ∀ messages arguments, Run.Serves (c.stream messages arguments))
    (limit : Int) (messages : List Given) (arguments : List (String × Given)) :
    Run.Serves ((c.looped limit).stream messages arguments) :=
  (still_refuseMisnamed arguments).serves.bind fun _ =>
    (Run.Still.ofExcept _).serves.bind fun vs => serves_streamFrom h limit arguments _ vs

end Client

namespace Run

variable {α : Type}

/-- A run with a consumer who takes so many updates, or all of them if no number is given.  One who
wants none does not begin. -/
def consumed (take : Option Nat) (x : Run α) : Run α :=
  match take with
  | some 0 => stop
  | take => do
    modify fun s => { s with budget := take, received := [] }
    x

theorem Serves.consumed {x : Run α} (h : Serves x) (take : Option Nat) :
    Serves (Run.consumed take x) := by
  unfold Run.consumed
  split
  · exact Still.stop.serves
  · refine Serves.bind (Still.serves fun s => ?_) fun _ => h
    exact ⟨rfl, rfl, rfl, (List.append_nil _).symm⟩

end Run

namespace ChatModel

/-- **Every stream of a run is closed once, and before the next request**, whatever the turns bring
and whenever the consumer leaves.  A stream that fails is the last one that is asked for, and the
run does not give a value.  From when the consumer has left nothing is asked for and nothing is
noted; no tool is called then, since calls are noted (`Tool.invocation_mem`). -/
theorem closes_streams (m : ChatModel) (limit : Int) (messages : List Given)
    (arguments : List (String × Given)) (take : Option Nat) {s t : Session}
    {r : Except Halt (List Update)} (hs : s.HasTurns)
    (hrun : Run.consumed take ((m.bare.looped limit).stream messages arguments) s = (r, t)) :
    ∃ taken ms, s.replies = taken ++ t.replies ∧ t.moments = s.moments ++ ms ∧
      t.requests.length = s.requests.length + ms.count .asked ∧
      t.closed = s.closed ++ List.replicate (taken.countP Reply.opens) 1 ∧ Orderly ms ∧
      (∀ before reply after, taken = before ++ reply :: after → reply.fails = true →
        after = [] ∧ ms.count .asked = before.length + 1 ∧ ∀ us, r ≠ .ok us) ∧
      (r = .error .stopped ↔ ∃ records, .left records ∈ ms) ∧
      ∀ records, .left records ∈ ms → t.log.length = records := by
  obtain ⟨taken, ms, h⟩ := (Client.serves_looped (c := m.bare) (serves_stream m) limit messages
    arguments).consumed take s hs
  rw [hrun] at h
  refine ⟨taken, ms, h.replies, h.moments, h.requests, h.closed, h.leads.orderly rfl, ?_, ?_,
    h.left⟩
  · intro before reply after htaken hfails
    obtain ⟨hlast, hcount, hvalue⟩ := h.last_of_fails htaken hfails
    exact ⟨hlast, hcount, fun us hr => hvalue (by rw [hr]; rfl)⟩
  · rw [← h.stopped_iff]
    rcases r with (f | _) | us <;> simp [Exit.of]

/-- A session that has two turns ready: a call of the tool, and a text of which the stream fails. -/
def thresholdTurns : Session where
  replies :=
    [.stream [.event (EventKind.callStart 0 "t1" "f"),
      .event (EventKind.callFragment 0 "\x7b\"v\": 5\x7d"), .event (EventKind.stopAt 0)] true,
    .stream [.event (EventKind.event .blockDelta [("delta", .obj [("text", .str "Done.")])]),
      .failure (.runtime "reset")] true]

/-- A consumer who leaves at the text has had both streams closed, the second one by leaving. -/
theorem thresholdTurns_closes_streams :
    ∃ r t, Run.consumed (some 3) ((bareHosted.bare.looped 10).stream [.str "Hi."]
        [("tools", .list [.leaf (.tool threshold)])]) thresholdTurns = (r, t) ∧
      t.moments = [.asked, .opened 0, .closed 0, .asked, .opened 1, .left 5, .closed 1] ∧
      Orderly t.moments ∧ t.closed = [1, 1] ∧ t.log.length = 5 := by
  obtain ⟨r, t, hrun⟩ : ∃ r t, Run.consumed (some 3) ((bareHosted.bare.looped 10).stream
      [.str "Hi."] [("tools", .list [.leaf (.tool threshold)])]) thresholdTurns = (r, t) :=
    ⟨_, _, rfl⟩
  have hends : (t.moments, t.replies.length) =
      ([.asked, .opened 0, .closed 0, .asked, .opened 1, .left 5, .closed 1], 0) := by
    rw [show t = (r, t).2 from rfl, ← hrun]
    decide +kernel
  obtain ⟨hmoments, hreplies⟩ := Prod.mk.inj hends
  obtain ⟨taken, ms, htaken, hms, -, hclosed, horderly, -, -, hleft⟩ :=
    closes_streams bareHosted 10 _ _ (some 3) (s := thresholdTurns)
      (by simp [Session.HasTurns, thresholdTurns, Reply.isTurn]) hrun
  have hms : t.moments = ms := hms
  rw [List.length_eq_zero_iff.mp hreplies, List.append_nil] at htaken
  refine ⟨r, t, hrun, hmoments, hms ▸ horderly, ?_, hleft 5 (by simp [← hms, hmoments])⟩
  rw [hclosed, ← htaken]
  rfl

end ChatModel

end Parley
