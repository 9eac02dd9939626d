/-
The order in which a run does things to its streams.

`Stand` says where a run is: how many streams are closed, whether the next one is
being read and whether the consumer has left.  A moment leads from one stand to the
next, and in most stands most moments are out of place.  What follows for the moments
of a whole run is `Orderly`, which speaks of nothing but the moments.
-/
import Mathlib.Tactic.ByContra
import Parley.Session

namespace Parley

/-! ### Where a run stands -/

/-- Where a run stands: how many streams are closed, whether the next one is being read, and whether
the consumer has left. -/
structure Stand where
  closed : Nat
  reading : Bool := false
  gone : Bool := false

namespace Stand

/-- What a moment does to where a run stands.  A request is sent and a stream is opened only while
nothing is read and the consumer is there; what is read can always be closed. -/
inductive Step : Stand → Moment → Stand → Prop
  | asked (n : Nat) : Step ⟨n, false, false⟩ .asked ⟨n, false, false⟩
  | opened (n : Nat) : Step ⟨n, false, false⟩ (.opened n) ⟨n, true, false⟩
  | closed (n : Nat) (gone : Bool) : Step ⟨n, true, gone⟩ (.closed n) ⟨n + 1, false, gone⟩
  | left (n : Nat) (reading : Bool) (records : Nat) :
      Step ⟨n, reading, false⟩ (.left records) ⟨n, reading, true⟩

/-- What moments do to it, one behind the other. -/
inductive Leads : Stand → List Moment → Stand → Prop
  | nil (w : Stand) : Leads w [] w
  | cons {u v w : Stand} {m : Moment} {ms : List Moment} (hstep : Step u m v)
      (hrest : Leads v ms w) : Leads u (m :: ms) w

variable {u v w : Stand} {ms more : List Moment}

theorem Leads.append (h : Leads u ms v) (h' : Leads v more w) : Leads u (ms ++ more) w := by
  induction h with
  | nil => exact h'
  | cons hstep _ ih => exact .cons hstep (ih h')

/-- The moments up to some point lead to where the rest goes on. -/
theorem Leads.split (h : Leads u (ms ++ more) w) : ∃ v, Leads u ms v ∧ Leads v more w := by
  induction ms generalizing u with
  | nil => exact ⟨u, .nil u, h⟩
  | cons m ms ih =>
      cases h with
      | cons hstep hrest =>
          obtain ⟨v, hms, hmore⟩ := ih hrest
          exact ⟨v, .cons hstep hms, hmore⟩

theorem leads_asked (n k : Nat) :
    Leads ⟨n, false, false⟩ (List.replicate k .asked) ⟨n, false, false⟩ := by
  induction k with
  | zero => exact .nil _
  | succ k ih => exact .cons (.asked n) ih

end Stand

/-! ### What it looks like from outside -/

/-- Whether a stream has been opened and is not closed yet. -/
def IsOpen (ms : List Moment) (i : Nat) : Prop := .opened i ∈ ms ∧ .closed i ∉ ms

/-- The order in which a run does things: it reads one stream at a time and closes each once, sends
no request while one is open, and asks for nothing more when the consumer has left. -/
structure Orderly (ms : List Moment) : Prop where
  closed_once : ∀ i, .opened i ∈ ms → ms.count (.closed i) = 1
  closed_first : ∀ before after, ms = before ++ .asked :: after → ∀ i, ¬ IsOpen before i
  one_open : ∀ before i j, before <+: ms → IsOpen before i → IsOpen before j → i = j
  left_last : ∀ before after records, ms = before ++ .left records :: after →
    .asked ∉ after ∧ ∀ i, .opened i ∉ after

namespace Stand

variable {u v w : Stand} {ms more : List Moment}

/-- A stream that is open is the one that is being read. -/
theorem Leads.reading_of_isOpen (h : Leads u ms w) {i : Nat}
    (hopen : (u.reading = true ∧ i = u.closed) ∨ .opened i ∈ ms) (hclosed : .closed i ∉ ms) :
    w.reading = true ∧ i = w.closed := by
  -- A later part of the moments may begin with the stream open, so that is allowed from the start.
  induction h with
  | nil w => exact hopen.resolve_right (by simp)
  | cons hstep _ ih =>
      refine ih ?_ fun h => hclosed (List.mem_cons_of_mem _ h)
      cases hstep with
      | asked n | left n reading => simpa using hopen
      | opened n => simpa using hopen
      | closed n gone =>
          rcases hopen with ⟨-, rfl⟩ | hopen
          · exact absurd List.mem_cons_self hclosed
          · exact .inr (by simpa using hopen)

/-- No stream is closed twice, and none that was closed before. -/
theorem Leads.count_closed_le (h : Leads u ms w) (i : Nat) :
    ms.count (.closed i) ≤ if i < u.closed then 0 else 1 := by
  induction h with
  | nil w => simp
  | cons hstep _ ih =>
      cases hstep with
      | asked | opened | left => rwa [List.count_cons_of_ne (by simp)]
      | closed n gone =>
          dsimp only at ih ⊢
          by_cases hi : n = i
          · subst hi
            rw [if_pos (Nat.lt_succ_self n)] at ih
            rw [if_neg (Nat.lt_irrefl n), List.count_cons_self]
            omega
          · rw [List.count_cons_of_ne (by simpa using hi)]
            split at ih <;> split <;> omega

/-- Once the consumer has left, nothing is asked for or opened. -/
theorem Leads.gone (h : Leads u ms w) (hu : u.gone = true) :
    .asked ∉ ms ∧ (∀ i, .opened i ∉ ms) ∧ w.gone = true := by
  induction h with
  | nil w => exact ⟨by simp, by simp, hu⟩
  | cons hstep _ ih =>
      cases hstep with
      | asked | opened | left => cases hu
      | closed n gone =>
          obtain ⟨hasked, hopened, hgone⟩ := ih hu
          exact ⟨by simpa using hasked, by simpa using hopened, hgone⟩

/-- The consumer is gone once it has left. -/
theorem Leads.gone_of_left (h : Leads u ms w) {records : Nat} (hleft : .left records ∈ ms) :
    w.gone = true := by
  obtain ⟨before, after, rfl⟩ := List.append_of_mem hleft
  obtain ⟨v, -, hrest⟩ := h.split
  cases hrest with
  | cons hstep hrest =>
      cases hstep
      exact (hrest.gone rfl).2.2

/-- Where the consumer is gone, it has left on the way. -/
theorem Leads.left_of_gone (h : Leads u ms w) (hu : u.gone = false) (hw : w.gone = true) :
    ∃ records, .left records ∈ ms := by
  induction h with
  | nil w =>
      rw [hu] at hw
      exact absurd hw Bool.false_ne_true
  | cons hstep _ ih =>
      cases hstep with
      | asked | opened | closed =>
          obtain ⟨records, hrecords⟩ := ih hu hw
          exact ⟨records, List.mem_cons_of_mem _ hrecords⟩
      | left n reading records => exact ⟨records, List.mem_cons_self⟩

/-- **Moments that lead to where nothing is read are in order.** -/
theorem Leads.orderly (h : Leads u ms w) (hw : w.reading = false) :
    Orderly ms where
  closed_once := by
    intro i hi
    have hmem : .closed i ∈ ms := by
      by_contra hclosed
      have hreading := (h.reading_of_isOpen (.inr hi) hclosed).1
      rw [hw] at hreading
      exact Bool.false_ne_true hreading
    have hpos := List.count_pos_iff.mpr hmem
    have hle := h.count_closed_le i
    split at hle <;> omega
  closed_first := by
    rintro before after rfl i ⟨hi, hclosed⟩
    obtain ⟨v, hbefore, hrest⟩ := h.split
    have hreading := (hbefore.reading_of_isOpen (.inr hi) hclosed).1
    cases hrest with
    | cons hstep _ =>
        cases hstep
        exact Bool.false_ne_true hreading
  one_open := by
    rintro before i j ⟨after, rfl⟩ ⟨hi, hi'⟩ ⟨hj, hj'⟩
    obtain ⟨v, hbefore, -⟩ := h.split
    rw [(hbefore.reading_of_isOpen (.inr hi) hi').2, (hbefore.reading_of_isOpen (.inr hj) hj').2]
  left_last := by
    rintro before after records rfl
    obtain ⟨v, -, hrest⟩ := h.split
    cases hrest with
    | cons hstep hrest =>
        cases hstep
        have hgone := hrest.gone rfl
        exact ⟨hgone.1, hgone.2.1⟩

end Stand

end Parley
