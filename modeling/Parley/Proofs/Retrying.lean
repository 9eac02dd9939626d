/-
Trying again.

What a run comes to is told by the sessions before its attempts: `before k` is the one that
attempt `k` finds when every attempt so far was followed by another one, and `outcome k` is
what the attempt comes to there.  The loop stops at the first outcome that another attempt
cannot mend, or at the last attempt there is, whichever comes first, and what it ends with
is what that attempt ended with, session and all.  The lemma for the loop starts at any
attempt, so that the induction on the attempts left goes through.

A function that notes what it is called with shows the attempts and the waits in between.
-/
import Mathlib.Data.ENat.Lattice
import Parley.Proofs.Service
import Parley.Proofs.Waiting

namespace Parley

open Number

namespace Policy

variable {α : Type}

/-- Whether what an attempt came to is a fault that may pass by itself. -/
def transient : Except Halt α → Bool
  | .error (.fault f) => mayPass f
  | _ => false

/-- **What may pass by itself** is a refusal with one of five codes, or one of three outages: no
answer in time, no connection in time, and no way to the service. -/
theorem transient_iff {outcome : Except Halt α} :
    transient outcome = true ↔
      (∃ reply operation code, outcome = .error (.fault (.refused reply operation)) ∧
        Fault.errorPart reply "Code" = some (.str code) ∧
        (code = "ThrottlingException" ∨ code = "ServiceUnavailableException" ∨
          code = "InternalServerException" ∨ code = "ModelNotReadyException" ∨
          code = "ModelTimeoutException")) ∨
      ∃ url, outcome = .error (.fault (.outage .readTimeout url)) ∨
        outcome = .error (.fault (.outage .connectTimeout url)) ∨
        outcome = .error (.fault (.outage .unreachable url)) := by
  rcases outcome with (f | _) | a
  · cases f with
    | refused reply operation =>
        have hmember (code : String) : passingCodes.contains code = true ↔
            code = "ThrottlingException" ∨ code = "ServiceUnavailableException" ∨
              code = "InternalServerException" ∨ code = "ModelNotReadyException" ∨
              code = "ModelTimeoutException" := by
          simp [passingCodes]
        simp only [transient, mayPass, ← hmember]
        split <;> simp_all
    | outage kind url => cases kind <;> simp [transient, mayPass]
    | _ => simp [transient, mayPass]
  · simp [transient]
  · simp [transient]

/-- The session before an attempt, when each attempt so far was followed by a wait. -/
def before (p : Policy) (x : Run α) (s : Session) : ℕ → Session
  | 0 => s
  | k + 1 => (Run.pause (p.wait k) (x (p.before x s k)).2).2

/-- What an attempt comes to. -/
def outcome (p : Policy) (x : Run α) (s : Session) (k : ℕ) : Except Halt α :=
  (x (p.before x s k)).1

/-- The position of the first outcome that is no transient fault (`transient_iff`), counted from
one. -/
noncomputable def settledAt (p : Policy) (x : Run α) (s : Session) : ℕ∞ :=
  ⨅ (k : ℕ) (_ : transient (p.outcome x s k) = false), ((k + 1 : ℕ) : ℕ∞)

variable {p : Policy} {x : Run α} {s : Session} {k n : ℕ}

theorem settledAt_le (h : transient (p.outcome x s k) = false) :
    p.settledAt x s ≤ ((k + 1 : ℕ) : ℕ∞) :=
  iInf₂_le k h

theorem le_settledAt (h : ∀ j < k, transient (p.outcome x s j) = true) :
    ((k + 1 : ℕ) : ℕ∞) ≤ p.settledAt x s := by
  refine le_iInf₂ fun j hj => ?_
  by_contra hlt
  have hjk : j < k := by
    rw [not_le, Nat.cast_lt] at hlt
    omega
  rw [h j hjk] at hj
  cases hj

/-! ### The loop -/

/-- One attempt: after a transient fault there is a wait and the next attempt. -/
theorem attempt_before (p : Policy) (x : Run α) (s : Session) (k left : ℕ) :
    p.attempt x k (left + 1) (p.before x s k) =
      if transient (p.outcome x s k) then p.attempt x (k + 1) left (p.before x s (k + 1))
      else x (p.before x s k) := by
  have hoff : transient (p.outcome x s k) = transient (x (p.before x s k)).1 := rfl
  rw [hoff, before]
  rcases hx : x (p.before x s k) with ⟨(f | _) | a, t⟩
  · by_cases hf : mayPass f
    · rw [if_pos (show transient (.error (.fault f) : Except Halt α) = true from hf), attempt,
        Run.onFault_apply, hx]
      dsimp only
      rw [if_pos hf]
      rfl
    · rw [if_neg (show ¬ transient (.error (.fault f) : Except Halt α) = true from hf)]
      exact Endpoint.attempt_apply_error hx (by simpa using hf) p k (left + 1)
  · rw [attempt, Run.onFault_apply, hx]
    rfl
  · rw [if_neg (show ¬ transient (.ok a : Except Halt α) = true from Bool.false_ne_true)]
    exact Endpoint.attempt_apply_ok hx p k (left + 1)

/-- **The loop goes on to an attempt that settles the matter, or to the last one.** -/
theorem exists_attempt_eq (p : Policy) (x : Run α) (s : Session) (left : ℕ) :
    ∀ k, ∃ j ≤ left, p.attempt x k left (p.before x s k) = x (p.before x s (k + j)) ∧
      (∀ i < j, transient (p.outcome x s (k + i)) = true) ∧
      (j = left ∨ transient (p.outcome x s (k + j)) = false) := by
  induction left with
  | zero => exact fun k => ⟨0, le_rfl, rfl, by simp, .inl rfl⟩
  | succ left ih =>
      intro k
      rw [attempt_before]
      by_cases h : transient (p.outcome x s k) = true
      · obtain ⟨j, hj, heq, htransient, hend⟩ := ih (k + 1)
        rw [if_pos h]
        refine ⟨j + 1, by omega, ?_, ?_, ?_⟩
        · rw [heq, Nat.add_right_comm, Nat.add_assoc]
        · intro i hi
          cases i with
          | zero => exact h
          | succ i =>
              have := htransient i (by omega)
              rwa [Nat.add_right_comm, Nat.add_assoc] at this
        · rw [show k + 1 + j = k + (j + 1) by omega] at hend
          exact hend.imp (by omega) id
      · rw [if_neg h]
        exact ⟨0, by omega, rfl, by simp, .inr (by simpa using h)⟩

/-- How a run comes to its end: with so many attempts, of which all but the last are transient. -/
structure Attempts (p : Policy) (x : Run α) (s : Session) (n : ℕ) : Prop where
  pos : 0 < n
  count : (n : ℕ∞) = min (p.attempts.toNat : ℕ∞) (p.settledAt x s)
  again : ∀ k, k + 1 < n → transient (p.outcome x s k) = true
  result : p.retrying x s = x (p.before x s (n - 1))

theorem exists_attempts (hp : p.Valid) (x : Run α) (s : Session) : ∃ n, p.Attempts x s n := by
  obtain ⟨j, hj, heq, htransient, hend⟩ := exists_attempt_eq p x s (p.attempts.toNat - 1) 0
  simp only [Nat.zero_add] at heq htransient hend
  have hpositive := hp.attempts
  have hlow := le_settledAt htransient
  refine ⟨j + 1, by omega, ?_, fun k hk => htransient k (by omega), heq⟩
  rcases hend with hlast | hsettled
  · have hall : j + 1 = p.attempts.toNat := by omega
    rw [← hall]
    exact (min_eq_left hlow).symm
  · have hbound : ((j + 1 : ℕ) : ℕ∞) ≤ p.attempts.toNat := by exact_mod_cast (by omega)
    rw [le_antisymm (settledAt_le hsettled) hlow]
    exact (min_eq_right hbound).symm

/-! ### What can be seen of a run -/

/-- A function that notes what it is called with, and does not wait by itself. -/
structure Observed (called : Document → Run α) : Prop where
  requests : ∀ a s, (called a s).2.requests = s.requests ++ [a]
  pauses : ∀ a s, (called a s).2.pauses = s.pauses

namespace Observed

variable {called : Document → Run α}

theorem before_requests (h : Observed called) (p : Policy) (a : Document) (s : Session) (k : ℕ) :
    (p.before (called a) s k).requests = s.requests ++ List.replicate k a := by
  induction k with
  | zero => simp [before]
  | succ k ih =>
      have hcalled := h.requests a (p.before (called a) s k)
      rw [ih, List.append_assoc, ← List.replicate_succ'] at hcalled
      exact hcalled

theorem before_pauses (h : Observed called) (p : Policy) (a : Document) (s : Session) (k : ℕ) :
    (p.before (called a) s k).pauses = s.pauses ++ (List.range k).map p.wait := by
  induction k with
  | zero => simp [before]
  | succ k ih =>
      have hcalled := h.pauses a (p.before (called a) s k)
      rw [List.range_succ, List.map_append, ← List.append_assoc, ← ih, ← hcalled]
      rfl

theorem requests_eq (h : Observed called) {a : Document} (hn : p.Attempts (called a) s n) :
    (p.retrying (called a) s).2.requests = s.requests ++ List.replicate n a := by
  have hpos := hn.pos
  rw [hn.result, h.requests, h.before_requests, List.append_assoc, ← List.replicate_succ',
    Nat.sub_add_cancel hpos]

theorem pauses_eq (h : Observed called) {a : Document} (hn : p.Attempts (called a) s n) :
    (p.retrying (called a) s).2.pauses = s.pauses ++ (List.range (n - 1)).map p.wait := by
  rw [hn.result, h.pauses, h.before_pauses]

/-- The service notes every request. -/
theorem send : Observed Run.send := by
  have hsend : ∀ (request : Document) (s : Session),
      (Run.send request s).2.requests = s.requests ++ [request] ∧
        (Run.send request s).2.pauses = s.pauses := by
    intro request s
    unfold Run.send
    rw [Run.bind_apply_ok (Run.modify_apply _ s), Run.bind_apply_ok (Run.get_apply _),
      Session.sent_replies]
    rcases s.replies with _ | ⟨_ | ⟨_, _ | _⟩ | _, _⟩ <;> exact ⟨rfl, rfl⟩
  exact ⟨fun a s => (hsend a s).1, fun a s => (hsend a s).2⟩

end Observed

/-- **Every policy that passes its checks makes as many attempts as are needed, and no more than it
allows.**  Each attempt is the same call, the run ends with what the last one ended with, and after
every other one there is one wait.  In range, a wait is the product of the interval and the power,
or the ceiling: exactly so where these are doubles, and but for the last bits where they are not. -/
theorem retrying_spec {fields : List (String × Given)} (h : ofFields fields = .ok p)
    (called : Document → Run α) (arguments : Document) (s : Session) :
    ∃ n : ℕ, (n : ℕ∞) = min (p.attempts.toNat : ℕ∞) (p.settledAt (called arguments) s) ∧
      p.retrying (called arguments) s = called arguments (p.before (called arguments) s (n - 1)) ∧
      (Observed called →
        (p.retrying (called arguments) s).2.requests =
            s.requests ++ List.replicate n arguments ∧
          (p.retrying (called arguments) s).2.pauses =
            s.pauses ++ (List.range (n - 1)).map p.wait) ∧
      ∀ k, p.InRange k →
        Represents (p.wait k) (p.roundedWait k) ∧
          (asDouble (magnitude p.multiplier ^ k) = magnitude p.multiplier ^ k →
            asDouble (magnitude p.interval * magnitude p.multiplier ^ k) =
              magnitude p.interval * magnitude p.multiplier ^ k →
            Represents (p.wait k) (p.exactWait k)) ∧
          (magnitude p.ceiling ≠ ⊤ →
            |(magnitude (p.wait k)).toReal - (p.exactWait k).toReal| ≤
              (p.exactWait k).toReal * 2 ^ (-51 : ℤ) + 2 ^ (-1075 : ℤ)) := by
  have hp := valid_of_fields h
  obtain ⟨n, hn⟩ := exists_attempts hp (called arguments) s
  refine ⟨n, hn.count, hn.result, fun hobserved => ?_, fun k hk => ?_⟩
  · exact ⟨hobserved.requests_eq hn, hobserved.pauses_eq hn⟩
  · have hwait := represents_wait hp hk
    refine ⟨hwait, fun hpower hproduct => ?_, fun hceiling => ?_⟩
    · rwa [roundedWait, hpower, hproduct] at hwait
    · rw [hwait.magnitude_eq]
      exact abs_roundedWait_sub_le hp hk hceiling

/-- A policy of three attempts, with waits that double. -/
def patient : Policy := { attempts := 3, interval := 0.5, multiplier := 2.0 }

/-- What the policy is made of. -/
def patientFields : List (String × Given) :=
  [("max_attempts", .int 3), ("initial_interval", .float 0.5), ("multiplier", .float 2.0)]

/-- A service that is too busy, cannot be reached, and then answers. -/
def wavering : Session :=
  { replies := [
      .failure (.refused (.obj [("Error", .obj [("Code", .str "ModelNotReadyException")])]) "Ask"),
      .failure (.outage .readTimeout "u"), .answer (.str "ok"), .answer (.str "again")] }

theorem settledAt_wavering : patient.settledAt (Run.send .null) wavering = (3 : ℕ) :=
  le_antisymm (settledAt_le (k := 2) (by rfl)) (le_settledAt (k := 2) (by decide))

theorem patient_retries :
    ofFields patientFields = .ok patient ∧
      (patient.retrying (Run.send .null) wavering).1.isOk ∧
      (patient.retrying (Run.send .null) wavering).2.requests = [.null, .null, .null] ∧
      (patient.retrying (Run.send .null) wavering).2.pauses = [0.5, 1.0] := by
  have hmade : ofFields patientFields = .ok patient := by rfl
  obtain ⟨n, hcount, hresult, hobserved, -⟩ := retrying_spec hmade Run.send .null wavering
  obtain ⟨hrequests, hpauses⟩ := hobserved .send
  rw [settledAt_wavering, show patient.attempts.toNat = 3 by rfl, min_self, Nat.cast_inj] at hcount
  subst hcount
  refine ⟨hmade, ?_, hrequests, hpauses.trans (by decide +kernel)⟩
  rw [hresult]
  rfl

/-! ### The wait that a caller asks for -/

/-- The wait before a retry that takes place. -/
theorem Observed.pauses_getElem? {called : Document → Run α} (h : Observed called) (hp : p.Valid)
    {a : Document} (hattempts : (n : ℤ) < p.attempts - 1)
    (htransient : ∀ k ≤ n, transient (p.outcome (called a) s k) = true) :
    (p.retrying (called a) s).2.pauses[s.pauses.length + n]? = some (p.wait n) := by
  obtain ⟨m, hm⟩ := exists_attempts hp (called a) s
  have hsettled : ((n + 2 : ℕ) : ℕ∞) ≤ p.settledAt (called a) s :=
    le_settledAt fun k hk => htransient k (by omega)
  have hallowed : ((n + 2 : ℕ) : ℕ∞) ≤ p.attempts.toNat := by
    exact_mod_cast (by omega : n + 2 ≤ p.attempts.toNat)
  have hmade : n + 2 ≤ m := by
    have hle := le_min hallowed hsettled
    rw [← hm.count] at hle
    exact_mod_cast hle
  have hin : n < (List.range (m - 1)).length := by
    rw [List.length_range]
    omega
  rw [h.pauses_eq hm, List.getElem?_append_right (Nat.le_add_right _ _), Nat.add_sub_cancel_left,
    List.getElem?_map, List.getElem?_eq_getElem hin, List.getElem_range]
  rfl

/-- **A caller is told a wait exactly as long as the power is in range.**  What is told is then no
more than the ceiling, no less than before an earlier retry, and as long as the run waits.  Out of
range the caller gets a fault, where the run waits for the ceiling. -/
theorem delayFor_iff_inRange {fields : List (String × Given)} (h : ofFields fields = .ok p)
    (hfinite : p.multiplier.isFinite = true) (n : ℕ) :
    ((∃ d, p.delayFor (.int n) = .ok d) ↔ p.InRange n) ∧
      (∀ d, p.delayFor (.int n) = .ok d →
        d ≤ p.ceiling ∧ (∀ k ≤ n, ∃ e, p.delayFor (.int k) = .ok e ∧ e ≤ d) ∧
          (d == p.wait n) = true) ∧
      (¬ p.InRange n →
        (∃ text, p.delayFor (.int n) = .error (.overflow text)) ∧ p.wait n = p.ceiling) ∧
      ∀ (called : Document → Run α) (arguments : Document) (s : Session), Observed called →
        (n : ℤ) < p.attempts - 1 →
        (∀ k ≤ n, transient (p.outcome (called arguments) s k) = true) →
        (p.retrying (called arguments) s).2.pauses[s.pauses.length + n]? = some (p.wait n) := by
  have hp := valid_of_fields h
  have htop := magnitude_ne_top hfinite
  have hrange : (∃ d, p.delay n = .ok d) ↔ p.InRange n := by
    constructor
    · rintro ⟨d, hd⟩
      by_contra hout
      obtain ⟨text, herror⟩ := delay_outOfRange hp htop hout
      rw [herror] at hd
      cases hd
    · intro hn
      obtain ⟨d, hd, -⟩ := delay_inRange hp hn
      exact ⟨d, hd⟩
  refine ⟨hrange, fun d hd => ?_, fun hn => ?_, ?_⟩
  · have hn := hrange.mp ⟨d, hd⟩
    obtain ⟨d', hd', hlength⟩ := delay_inRange hp hn
    obtain rfl : d' = d := Except.ok.inj (hd'.symm.trans hd)
    refine ⟨(hlength.le_iff hp.represents_ceiling).mpr (roundedWait_le_ceiling p n), ?_,
      (hlength.beq_iff (represents_wait hp hn)).mpr rfl⟩
    intro k hk
    obtain ⟨e, he, hearlier⟩ := delay_inRange hp (hn.of_le hp hk)
    exact ⟨e, he, (hearlier.le_iff hlength).mpr (roundedWait_mono hp hk)⟩
  · exact ⟨delay_outOfRange hp htop hn, wait_outOfRange hp htop hn⟩
  · intro called arguments s hobserved hattempts htransient
    exact hobserved.pauses_getElem? hp hattempts htransient

theorem patient_delayFor :
    ofFields patientFields = .ok patient ∧ patient.multiplier.isFinite = true ∧
      patient.InRange 1 ∧
      (∃ d, patient.delayFor (.int 1) = .ok d ∧ d ≤ patient.ceiling ∧
        (d == patient.wait 1) = true) ∧
      (patient.retrying (Run.send .null) wavering).2.pauses[1]? = some (patient.wait 1) := by
  have hmade : ofFields patientFields = .ok patient := by rfl
  have hfinite : patient.multiplier.isFinite = true := by rfl
  have htold : patient.delayFor (.int 1) = .ok 1.0 := by rfl
  obtain ⟨hrange, hwait, -, hpause⟩ := delayFor_iff_inRange hmade hfinite 1
  obtain ⟨hceiling, -, hsame⟩ := hwait 1.0 htold
  exact ⟨hmade, hfinite, hrange.mp ⟨1.0, htold⟩, ⟨1.0, htold, hceiling, hsame⟩,
    hpause Run.send .null wavering .send (by decide) (by decide)⟩

/-- Not every number of a retry has a wait that a caller is told. -/
theorem delayFor_not_total :
    ¬ ∀ (fields : List (String × Given)) (p : Policy), ofFields fields = .ok p →
      p.interval.isFinite = true → p.multiplier.isFinite = true → p.ceiling.isFinite = true →
      ∀ n : ℕ, ∃ d, p.delayFor (.int n) = .ok d := by
  intro htotal
  obtain ⟨d, hd⟩ := htotal [] {} (by rfl) (by rfl) (by rfl) (by rfl) 1000
  have hrefused : (({} : Policy).delayFor (.int 1000)).isOk = false := by decide +kernel
  rw [Nat.cast_ofNat] at hd
  rw [hd] at hrefused
  cases hrefused

end Policy

end Parley
