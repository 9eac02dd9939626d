/-
Invocations, one by one.

An invocation that gives a reply has taken some failures off the script of the service and one
answer behind them, and has sent its request once for each.  An `Inquiry` is such a piece of a run,
and a run that consists of inquiries is described by the list of them.  Where the script has an
answer ready, the invocation comes to what the body of that answer spells.
-/
import Parley.Proofs.Attached
import Parley.Proofs.Retrying

namespace Parley

/-- A request that invokes a model with a body. -/
def Endpoint.Invokes (id : String) (body request : Document) : Prop :=
  ∃ text, jsonBody body = .ok text ∧ request = invocation (.str id) text jsonType jsonType

/-- A request, the failures that it was sent again after, the answer, and the reply that its body
spells. -/
structure Inquiry where
  request : Document
  failures : List Fault
  answer : Value Attachment
  reply : Document

namespace Inquiry

/-- What an inquiry sends. -/
def requests (x : Inquiry) : List Document :=
  List.replicate (x.failures.length + 1) x.request

/-- What an inquiry takes off the script. -/
def script (x : Inquiry) : List Reply :=
  x.failures.map .failure ++ [.answer x.answer]

/-- An inquiry that a policy allows: the failures may pass, there is an attempt for each, and the
answer has a body that spells the reply. -/
structure Held (p : Policy) (x : Inquiry) : Prop where
  again : ∀ f ∈ x.failures, Policy.mayPass f = true
  few : x.failures.length ≤ p.attempts.toNat - 1
  spelled : ∃ b, Endpoint.bodyOf x.answer = .ok b ∧ Endpoint.readBody b = .ok x.reply

end Inquiry

/-- A run that consists of inquiries, as far as the service can tell. -/
structure Session.Inquiries (s t : Session) (xs : List Inquiry) : Prop where
  requests : t.requests = s.requests ++ xs.flatMap Inquiry.requests
  script : s.replies = xs.flatMap Inquiry.script ++ t.replies

namespace Session.Inquiries

variable {s t u : Session} {xs ys : List Inquiry}

theorem refl (s : Session) : Inquiries s s [] := ⟨by simp, by simp⟩

theorem trans (h : Inquiries s t xs) (h' : Inquiries t u ys) : Inquiries s u (xs ++ ys) :=
  ⟨by rw [h'.requests, h.requests, List.flatMap_append, List.append_assoc],
    by rw [h.script, h'.script, List.flatMap_append, List.append_assoc]⟩

end Session.Inquiries

namespace Run

variable {s t : Session} {request : Document}

/-- What is sent gets the next reply of the script, if any is left. -/
theorem send_requests (request : Document) (s : Session) :
    (send request s).2.requests = s.requests ++ [request] :=
  Policy.Observed.send.requests request s

/-- An answer with a body is no stream, so it stood in the script as it is. -/
theorem send_ok {v : Value Attachment} {b : List UInt8} (h : send request s = (.ok v, t))
    (hb : Endpoint.bodyOf v = .ok b) : s.replies = .answer v :: t.replies := by
  cases hreplies : s.replies with
  | nil =>
      rw [send_exhausted hreplies] at h
      cases h
  | cons r rest =>
      cases r with
      | answer w =>
          rw [send_answer hreplies] at h
          cases h
          rfl
      | failure f =>
          rw [send_failure hreplies] at h
          cases h
      | stream items closeable =>
          cases closeable with
          | false =>
              rw [send_open hreplies] at h
              cases h
              cases hb
          | true =>
              rw [send_closeable hreplies] at h
              cases h
              cases hb

/-- A failure that may pass stood in the script. -/
theorem send_error {f : Fault} (h : send request s = (.error (.fault f), t))
    (hf : Policy.mayPass f = true) : s.replies = .failure f :: t.replies := by
  cases hreplies : s.replies with
  | nil =>
      rw [send_exhausted hreplies] at h
      cases h
      cases hf
  | cons r rest =>
      cases r with
      | answer w =>
          rw [send_answer hreplies] at h
          cases h
      | failure g =>
          rw [send_failure hreplies] at h
          cases h
          rfl
      | stream items closeable =>
          cases closeable with
          | false =>
              rw [send_open hreplies] at h
              cases h
          | true =>
              rw [send_closeable hreplies] at h
              cases h

end Run

/-- A request that is answered was sent again after failures that may pass, and after no others. -/
theorem Policy.attempt_ok {p : Policy} {request : Document} {v : Value Attachment}
    {b : List UInt8} (hb : Endpoint.bodyOf v = .ok b) :
    ∀ (left k : Nat) (s t : Session), p.attempt (Run.send request) k left s = (.ok v, t) →
      ∃ failures : List Fault, (∀ f ∈ failures, mayPass f = true) ∧ failures.length ≤ left ∧
        s.replies = failures.map Reply.failure ++ .answer v :: t.replies ∧
        t.requests = s.requests ++ List.replicate (failures.length + 1) request := by
  intro left
  induction left with
  | zero =>
      intro k s t h
      refine ⟨[], by simp, le_rfl, Run.send_ok h hb, ?_⟩
      have hsent := Run.send_requests request s
      rwa [show Run.send request s = (.ok v, t) from h] at hsent
  | succ left ih =>
      intro k s t h
      have hsent := Run.send_requests request s
      rw [attempt, Run.onFault_apply] at h
      rcases hsend : Run.send request s with ⟨(f | _) | w, u⟩ <;> rw [hsend] at h hsent
      · dsimp only at h
        by_cases hf : mayPass f = true
        · rw [if_pos hf, Run.bind_apply_ok (Run.pause_apply _ _)] at h
          obtain ⟨failures, hpass, hlength, hreplies, hrequests⟩ := ih _ _ _ h
          refine ⟨f :: failures, ?_, by simpa using hlength, ?_, ?_⟩
          · intro g hg
            rcases List.mem_cons.mp hg with rfl | hg
            · exact hf
            · exact hpass g hg
          · rw [Run.send_error hsend hf, List.map_cons, List.cons_append]
            exact congrArg _ hreplies
          · rw [hrequests]
            dsimp only
            rw [hsent, List.append_assoc, List.singleton_append, ← List.replicate_succ]
            rfl
        · rw [if_neg hf] at h
          cases h
      · cases h
      · cases h
        exact ⟨[], by simp, Nat.zero_le _, Run.send_ok hsend hb, hsent⟩

namespace Endpoint

/-- A refusal is reported on the way, and ends the run all the same. -/
theorem submit_ok {p : Policy} {operation : String} {request : Document} {v : Value Attachment}
    {s t : Session} (h : submit p operation request s = (.ok v, t)) :
    p.retrying (Run.send request) s = (.ok v, t) := by
  unfold submit reporting at h
  rw [Run.onFault_apply] at h
  rcases hx : p.retrying (Run.send request) s with ⟨(f | _) | w, u⟩ <;> rw [hx] at h
  · dsimp only at h
    rw [Run.bind_apply] at h
    rcases hnote : noteRefusal operation f u with ⟨e | _, u'⟩ <;> rw [hnote] at h <;> cases h
  · cases h
  · exact h

/-- **An invocation that gives a reply is an inquiry.** -/
theorem invoke_ok {p : Policy} {id : String} {body reply : Document} {s t : Session}
    (h : (invoke p (.str id) body) s = (.ok reply, t)) :
    ∃ x : Inquiry, Invokes id body x.request ∧ x.Held p ∧ x.reply = reply ∧ s.Inquiries t [x] := by
  unfold invoke at h
  rw [Run.bind_apply_ok (announce_apply _ _ _)] at h
  obtain ⟨text, htext, hsubmit⟩ := Run.ofExcept_bind_ok h
  obtain ⟨v, u, hv, hread⟩ := Run.bind_ok hsubmit
  obtain ⟨b, hb, hspelled⟩ := Run.ofExcept_bind_ok hread
  obtain ⟨hreply, rfl⟩ := Run.ofExcept_ok hspelled
  obtain ⟨failures, hpass, hlength, hreplies, hrequests⟩ :=
    Policy.attempt_ok hb _ _ _ _ (submit_ok hv)
  let x : Inquiry := ⟨invocation (.str id) text jsonType jsonType, failures, v, reply⟩
  refine ⟨x, ⟨text, htext, rfl⟩, ⟨hpass, hlength, b, hb, hreply⟩, rfl, ⟨?_, ?_⟩⟩
  · simpa [Inquiry.requests, x] using hrequests
  · simpa [Inquiry.script, x] using hreplies

/-- An answer that is ready is read, and one request is sent for it. -/
theorem invoke_answer (p : Policy) (id : Document) {body : Document} {text : String}
    {s : Session} {v : Value Attachment} {rest : List Reply} (hbody : jsonBody body = .ok text)
    (h : s.replies = .answer v :: rest) :
    ∃ t, (invoke p id body) s = ((bodyOf v >>= readBody).mapError Halt.fault, t) ∧
      t.replies = rest ∧ t.requests = s.requests ++ [invocation id text jsonType jsonType] := by
  refine ⟨{ s.sent (invocation id text jsonType jsonType) with
    replies := rest, log := s.log ++ [announcement "InvokeModel" id] }, ?_, rfl, rfl⟩
  unfold invoke
  rw [Run.bind_apply_ok (announce_apply _ _ _), hbody, Run.bind_apply_ok (Run.ofExcept_apply _ _),
    Run.bind_apply_ok (submit_answer (by exact h) p "InvokeModel" _), Run.bind_apply,
    Run.ofExcept_apply]
  cases bodyOf v with
  | error f => rfl
  | ok b => exact Run.ofExcept_apply _ _

end Endpoint

end Parley
