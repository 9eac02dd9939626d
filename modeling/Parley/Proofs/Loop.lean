/-
The loop, one round at a time.

A round asks and then either ends or runs the calls of the reply and goes on.
These equations follow the loop through one round when it is known how the asking
ends; the runs of the loop are put together from them.
-/
import Parley.Chat.Loop
import Parley.Proofs.Run

namespace Parley.Client

variable {c : Client} {limit : Int} {arguments : List (String × Given)} {s t : Session}

/-! ### Entering the loop -/

theorem prepare_given (ms : List Message) :
    Message.prepare (.list (given ms)) = .ok (given ms) := by
  show Except.ok ((given ms).map _) = _
  unfold given
  rw [List.map_map]
  rfl

theorem respond_looped {messages vs : List Given} (hnamed : misnamed? arguments = none)
    (hvs : Message.prepare (.list messages) = .ok vs) :
    (c.looped limit).respond messages arguments s =
      respondFrom c limit arguments limit.toNat vs [] s := by
  unfold looped refuseMisnamed
  dsimp only
  rw [hnamed, hvs]
  rfl

theorem stream_looped {messages vs : List Given} (hnamed : misnamed? arguments = none)
    (hvs : Message.prepare (.list messages) = .ok vs) :
    (c.looped limit).stream messages arguments s =
      streamFrom c limit arguments limit.toNat vs s := by
  unfold looped refuseMisnamed
  dsimp only
  rw [hnamed, hvs]
  rfl

/-- What cannot be entered is left as it was, whichever way it was asked for. -/
theorem looped_refused (c : Client) (limit : Int) {messages : List Given}
    (h : misnamed? arguments ≠ none ∨ ∀ vs, Message.prepare (.list messages) ≠ .ok vs) :
    ∃ f, ∀ s, (c.looped limit).respond messages arguments s = (.error (.fault f), s) ∧
      (c.looped limit).stream messages arguments s = (.error (.fault f), s) := by
  unfold looped refuseMisnamed
  dsimp only
  cases hnamed : misnamed? arguments with
  | some f => exact ⟨f, fun s => ⟨rfl, rfl⟩⟩
  | none =>
      cases hvs : Message.prepare (.list messages) with
      | error f => exact ⟨f, fun s => ⟨rfl, rfl⟩⟩
      | ok vs => exact absurd (h.resolve_left (absurd hnamed) vs) (absurd hvs)

/-! ### Rounds of complete replies -/

theorem respondFrom_error {n : Nat} {messages : List Given} {earlier : List Message} {h : Halt}
    (hask : c.respond messages arguments s = (.error h, t)) :
    respondFrom c limit arguments (n + 1) messages earlier s = (.error h, t) := by
  unfold respondFrom
  rw [Run.bind_apply_error hask]

/-- A reply without calls ends the loop. -/
theorem respondFrom_answered {n : Nat} {messages : List Given} {earlier : List Message}
    {r : Response} (hask : c.respond messages arguments s = (.ok r, t))
    (hcalls : Message.calls r.messages = []) :
    respondFrom c limit arguments (n + 1) messages earlier s = (.ok (after earlier r), t) := by
  unfold respondFrom
  rw [Run.bind_apply_ok hask, hcalls]
  rfl

/-- Without tools a reply with calls ends the loop as well. -/
theorem respondFrom_untooled {n : Nat} {messages : List Given} {earlier : List Message}
    {r : Response} (hask : c.respond messages arguments s = (.ok r, t))
    (htools : c.tools arguments = []) :
    respondFrom c limit arguments (n + 1) messages earlier s = (.ok (after earlier r), t) := by
  unfold respondFrom
  rw [Run.bind_apply_ok hask, htools]
  cases Message.calls r.messages <;> rfl

/-- A reply with calls has them run, and the loop goes on with their results. -/
theorem respondFrom_called {n : Nat} {messages : List Given} {earlier : List Message}
    {r : Response} (hask : c.respond messages arguments s = (.ok r, t))
    (hcalls : Message.calls r.messages ≠ []) (htools : c.tools arguments ≠ []) :
    respondFrom c limit arguments (n + 1) messages earlier s =
      (Run.ofLogged (Call.execute (Message.calls r.messages) (c.tools arguments)) >>= fun results =>
        respondFrom c limit arguments n
          (messages ++ given (r.messages ++ [Message.ofResults results]))
          (earlier ++ (r.messages ++ [Message.ofResults results]))) t := by
  obtain ⟨call, calls, hc⟩ := List.exists_cons_of_ne_nil hcalls
  obtain ⟨tool, tools, ht⟩ := List.exists_cons_of_ne_nil htools
  rw [respondFrom, Run.bind_apply_ok hask, hc, ht]

/-- When the calls of a reply all have results, the loop goes on behind them. -/
theorem respondFrom_executed {n : Nat} {messages : List Given} {earlier : List Message}
    {r : Response} {results : List Result}
    (hask : c.respond messages arguments s = (.ok r, t))
    (hcalls : Message.calls r.messages ≠ []) (htools : c.tools arguments ≠ [])
    (hran : (Call.execute (Message.calls r.messages) (c.tools arguments)).2 = .ok results) :
    respondFrom c limit arguments (n + 1) messages earlier s =
      respondFrom c limit arguments n
        (messages ++ given (r.messages ++ [Message.ofResults results]))
        (earlier ++ (r.messages ++ [Message.ofResults results]))
        { t with
          log := t.log ++ (Call.execute (Message.calls r.messages) (c.tools arguments)).1 } := by
  rw [respondFrom_called hask hcalls htools, Run.bind_apply_ok (Run.ofLogged_apply_ok hran t)]

/-- When the calls of a reply come to a fault, the loop ends with it. -/
theorem respondFrom_broken {n : Nat} {messages : List Given} {earlier : List Message}
    {r : Response} {f : Fault} (hask : c.respond messages arguments s = (.ok r, t))
    (hcalls : Message.calls r.messages ≠ []) (htools : c.tools arguments ≠ [])
    (hran : (Call.execute (Message.calls r.messages) (c.tools arguments)).2 = .error f) :
    respondFrom c limit arguments (n + 1) messages earlier s = (.error (.fault f),
      { t with
        log := t.log ++ (Call.execute (Message.calls r.messages) (c.tools arguments)).1 }) := by
  rw [respondFrom_called hask hcalls htools, Run.bind_apply_error (Run.ofLogged_apply_error hran t)]

/-- After the last round a plain answer is asked for. -/
theorem respondFrom_limit (messages : List Given) (earlier : List Message) :
    respondFrom c limit arguments 0 messages earlier s =
      (c.respond messages (plain arguments) >>= fun r => pure (after earlier r))
        (noteLimit limit s).2 := by
  unfold respondFrom
  rw [Run.bind_apply_ok (show noteLimit limit s = (.ok (), (noteLimit limit s).2) from rfl)]

/-! ### Rounds of updates -/

theorem streamFrom_error {n : Nat} {messages : List Given} {h : Halt}
    (hask : c.stream messages arguments s = (.error h, t)) :
    streamFrom c limit arguments (n + 1) messages s = (.error h, t) := by
  unfold streamFrom
  rw [Run.bind_apply_error hask]

/-- Updates without calls end the loop. -/
theorem streamFrom_answered {n : Nat} {messages : List Given} {us : List Update}
    (hask : c.stream messages arguments s = (.ok us, t)) (hcalls : callsOf us = []) :
    streamFrom c limit arguments (n + 1) messages s = (.ok us, t) := by
  unfold streamFrom
  rw [Run.bind_apply_ok hask, hcalls]
  rfl

/-- Without tools updates with calls end the loop as well. -/
theorem streamFrom_untooled {n : Nat} {messages : List Given} {us : List Update}
    (hask : c.stream messages arguments s = (.ok us, t)) (htools : c.tools arguments = []) :
    streamFrom c limit arguments (n + 1) messages s = (.ok us, t) := by
  unfold streamFrom
  rw [Run.bind_apply_ok hask, htools]
  cases callsOf us <;> rfl

/-- Updates with calls have the calls of their message run, and the loop goes on behind the update
with the results. -/
theorem streamFrom_called {n : Nat} {messages : List Given} {us : List Update}
    (hask : c.stream messages arguments s = (.ok us, t)) (hcalls : callsOf us ≠ [])
    (htools : c.tools arguments ≠ []) :
    streamFrom c limit arguments (n + 1) messages s =
      (Run.ofLogged (Call.execute (Message.calls (Response.ofUpdates us).messages)
          (c.tools arguments)) >>= fun results =>
        Run.emit (resultsUpdate results) >>= fun _ =>
        streamFrom c limit arguments n
          (messages ++ given ((Response.ofUpdates us).messages ++ [Message.ofResults results])) >>=
        fun more => pure (us ++ resultsUpdate results :: more)) t := by
  obtain ⟨call, calls, hc⟩ := List.exists_cons_of_ne_nil hcalls
  obtain ⟨tool, tools, ht⟩ := List.exists_cons_of_ne_nil htools
  rw [streamFrom, Run.bind_apply_ok hask, hc, ht]

/-- When the calls of a turn all have results, a consumer without a limit gets them, and the loop
goes on behind them. -/
theorem streamFrom_executed {n : Nat} {messages : List Given} {us : List Update}
    {results : List Result} (hask : c.stream messages arguments s = (.ok us, t))
    (hcalls : callsOf us ≠ []) (htools : c.tools arguments ≠ []) (hbudget : t.budget = none)
    (hran : (Call.execute (Message.calls (Response.ofUpdates us).messages)
      (c.tools arguments)).2 = .ok results) :
    streamFrom c limit arguments (n + 1) messages s =
      let rest := streamFrom c limit arguments n
        (messages ++ given ((Response.ofUpdates us).messages ++ [Message.ofResults results]))
        { t with
          log := t.log ++ (Call.execute (Message.calls (Response.ofUpdates us).messages)
            (c.tools arguments)).1
          received := t.received ++ [resultsUpdate results] }
      (rest.1.map fun more => us ++ resultsUpdate results :: more, rest.2) := by
  rw [streamFrom_called hask hcalls htools, Run.bind_apply_ok (Run.ofLogged_apply_ok hran t),
    Run.bind_apply_ok (Run.emit_apply (by exact hbudget) _), Run.bind_pure_apply]

/-- When the calls of a turn come to a fault, the loop ends with it. -/
theorem streamFrom_broken {n : Nat} {messages : List Given} {us : List Update} {f : Fault}
    (hask : c.stream messages arguments s = (.ok us, t)) (hcalls : callsOf us ≠ [])
    (htools : c.tools arguments ≠ [])
    (hran : (Call.execute (Message.calls (Response.ofUpdates us).messages)
      (c.tools arguments)).2 = .error f) :
    streamFrom c limit arguments (n + 1) messages s = (.error (.fault f),
      { t with
        log := t.log ++ (Call.execute (Message.calls (Response.ofUpdates us).messages)
          (c.tools arguments)).1 }) := by
  rw [streamFrom_called hask hcalls htools, Run.bind_apply_error (Run.ofLogged_apply_error hran t)]

/-- After the last round the updates of a plain answer are asked for. -/
theorem streamFrom_limit (messages : List Given) :
    streamFrom c limit arguments 0 messages s =
      c.stream messages (plain arguments) (noteLimit limit s).2 := by
  unfold streamFrom
  rw [Run.bind_apply_ok (show noteLimit limit s = (.ok (), (noteLimit limit s).2) from rfl)]

end Parley.Client
