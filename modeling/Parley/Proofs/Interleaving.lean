/-
Calls that are interleaved.

The events of several calls may come mixed with each other and with anything else.
`Underway` reads off the events so far which call is under way in a block, and
what has come of its input: only the events about that block count.  The accumulator
holds these calls and no others, `Accumulator.Holds`, which one lemma for each sort of
event keeps.  Blocks need not be well nested, or end at all: a start takes the place of
a call under way in its block, and a fragment or a stop without a call is idle.
-/
import Parley.Proofs.Fragments

namespace Parley

/-! ### What events are about -/

/-- What an event that is about no call imparts: the contents that it brings, and the reason to stop
that it gives. -/
inductive Imparts : Document → List Body → Option FinishReason → Prop
  | messageStart {event : Document} (h : EventKind.ofEvent event = .messageStart) :
      Imparts event [] none
  | blockStart {event : Document} (h : EventKind.ofEvent event = .blockStart)
      (hplain : event.gives [EventKind.key .blockStart, "start", "toolUse"] = false) :
      Imparts event [] none
  | text {event : Document} {s : String} (h : EventKind.ofEvent event = .blockDelta)
      (hplain : event.gives [EventKind.key .blockDelta, "delta", "toolUse"] = false)
      (htext : EventKind.Holds .blockDelta event ["delta", "text"] (.str s)) :
      Imparts event [.text s] none
  | delta {event : Document} (h : EventKind.ofEvent event = .blockDelta)
      (hplain : event.gives [EventKind.key .blockDelta, "delta", "toolUse"] = false)
      (htext : ∀ s, ¬ EventKind.Holds .blockDelta event ["delta", "text"] (.str s)) :
      Imparts event [] none
  | messageStop {event : Document} {word : Document} {reason : Option FinishReason}
      (h : EventKind.ofEvent event = .messageStop)
      (hword : (event.at? [EventKind.key .messageStop, "stopReason"]).getD .null = word)
      (hreason : Wire.finishReason word = .ok reason) : Imparts event [] reason
  | counts {event : Document} {counts : Usage} (h : EventKind.ofEvent event = .metadata)
      (hcounts : Wire.usage ((event.at? [EventKind.key .metadata, "usage"]).getD .null) =
        .ok counts) : Imparts event [.usage counts] none
  | unknown {entries : Properties} (h : EventKind.ofEvent (.obj entries) = .unknown) :
      Imparts (.obj entries) [] none

namespace Imparts

variable {event : Document} {bodies : List Body} {reason : Option FinishReason}

theorem isToolPart (h : Imparts event bodies reason) :
    (Generation.ofEvent event).isToolPart = false := by
  rw [Generation.isToolPart_ofEvent]
  cases h <;> simp [*]

theorem ne_blockStop (h : Imparts event bodies reason) : EventKind.ofEvent event ≠ .blockStop := by
  cases h <;> simp [*]

theorem isFailure (h : Imparts event bodies reason) :
    (EventKind.ofEvent event).isFailure = false := by
  cases h <;> simp [*, EventKind.isFailure]

end Imparts

/-- The call under way in the block with an index, and the fragments of its input, after events that
are listed with the latest first.  What happens in other blocks does not matter. -/
inductive Underway (i : Int) : List Document → String → String → List String → Prop
  | start {event : Document} {past : List Document} {id name : String}
      (h : StartsCall i id name event) : Underway i (event :: past) id name []
  | fragment {event : Document} {past : List Document} {id name s : String} {parts : List String}
      (h : ExtendsCall i s event) (hpast : Underway i past id name parts) :
      Underway i (event :: past) id name (parts ++ [s])
  | other {event : Document} {past : List Document} {id name : String} {parts : List String}
      (hstart : ∀ id name, ¬ StartsCall i id name event) (hextend : ∀ s, ¬ ExtendsCall i s event)
      (hstop : ¬ StopsBlock i event) (hpast : Underway i past id name parts) :
      Underway i (event :: past) id name parts

namespace Underway

variable {i j : Int} {id name id' name' s : String} {event : Document} {past : List Document}
  {parts parts' : List String}

/-- At most one call is under way in a block. -/
theorem unique (h : Underway i past id name parts) (h' : Underway i past id' name' parts') :
    id' = id ∧ name' = name ∧ parts' = parts := by
  induction h generalizing parts' with
  | start h =>
      cases h' with
      | start h' =>
          obtain ⟨-, hid, hname⟩ := h.unique h'
          exact ⟨hid, hname, rfl⟩
      | fragment h' => cases h.kind.symm.trans h'.kind
      | other hstart => exact absurd h (hstart _ _)
  | fragment h _ ih =>
      cases h' with
      | start h' => cases h.kind.symm.trans h'.kind
      | fragment h' hpast =>
          obtain ⟨-, rfl⟩ := h.unique h'
          obtain ⟨hid, hname, rfl⟩ := ih hpast
          exact ⟨hid, hname, rfl⟩
      | other _ hextend => exact absurd h (hextend _)
  | other hstart hextend _ _ ih =>
      cases h' with
      | start h' => exact absurd h' (hstart _ _)
      | fragment h' => exact absurd h' (hextend _)
      | other _ _ _ hpast => exact ih hpast

/-- After a start its own call is under way, without fragments, and the others as before. -/
theorem cons_startsCall (h : StartsCall i id name event) :
    Underway j (event :: past) id' name' parts ↔
      if i = j then id' = id ∧ name' = name ∧ parts = [] else Underway j past id' name' parts := by
  constructor
  · intro hunder
    cases hunder with
    | start h' =>
        obtain ⟨rfl, rfl, rfl⟩ := h.unique h'
        simp
    | fragment h' => cases h.kind.symm.trans h'.kind
    | other hstart _ _ hpast =>
        have hij : i ≠ j := fun hij => hstart id name (hij ▸ h)
        rwa [if_neg hij]
  · intro hunder
    by_cases hij : i = j
    · rw [if_pos hij] at hunder
      obtain ⟨rfl, rfl, rfl⟩ := hunder
      exact .start (hij ▸ h)
    · rw [if_neg hij] at hunder
      refine .other (fun id name h' => hij (h.unique h').1) (fun s h' => ?_) (fun h' => ?_) hunder
      · cases h.kind.symm.trans h'.kind
      · cases h.kind.symm.trans h'.kind

/-- A fragment goes behind those of its own call, if that is under way. -/
theorem cons_extendsCall (h : ExtendsCall i s event) :
    Underway j (event :: past) id' name' parts ↔
      if i = j then ∃ before, Underway j past id' name' before ∧ parts = before ++ [s]
      else Underway j past id' name' parts := by
  constructor
  · intro hunder
    cases hunder with
    | start h' => cases h.kind.symm.trans h'.kind
    | fragment h' hpast =>
        obtain ⟨rfl, rfl⟩ := h.unique h'
        rw [if_pos rfl]
        exact ⟨_, hpast, rfl⟩
    | other _ hextend _ hpast =>
        have hij : i ≠ j := fun hij => hextend s (hij ▸ h)
        rwa [if_neg hij]
  · intro hunder
    by_cases hij : i = j
    · rw [if_pos hij] at hunder
      obtain ⟨before, hpast, rfl⟩ := hunder
      exact .fragment (hij ▸ h) hpast
    · rw [if_neg hij] at hunder
      refine .other (fun id name h' => ?_) (fun s h' => hij (h.unique h').1) (fun h' => ?_) hunder
      · cases h.kind.symm.trans h'.kind
      · cases h.kind.symm.trans h'.kind

/-- After a stop no call is under way at its index, and the others are as before. -/
theorem cons_stopsBlock (h : StopsBlock i event) :
    Underway j (event :: past) id' name' parts ↔ i ≠ j ∧ Underway j past id' name' parts := by
  constructor
  · intro hunder
    cases hunder with
    | start h' => cases h.kind.symm.trans h'.kind
    | fragment h' => cases h.kind.symm.trans h'.kind
    | other _ _ hstop hpast => exact ⟨fun hij => hstop (hij ▸ h), hpast⟩
  · rintro ⟨hij, hpast⟩
    refine .other (fun id name h' => ?_) (fun s h' => ?_) (fun h' => hij (h.unique h')) hpast
    · cases h.kind.symm.trans h'.kind
    · cases h.kind.symm.trans h'.kind

/-- An event that is about no call leaves all calls as they are. -/
theorem cons_imparts {bodies : List Body} {reason : Option FinishReason}
    (h : Imparts event bodies reason) :
    Underway j (event :: past) id' name' parts ↔ Underway j past id' name' parts := by
  constructor
  · intro hunder
    cases hunder with
    | start h' => exact absurd h'.isToolPart (by simp [h.isToolPart])
    | fragment h' => exact absurd h'.isToolPart (by simp [h.isToolPart])
    | other _ _ _ hpast => exact hpast
  · exact .other (fun id name h' => absurd h'.isToolPart (by simp [h.isToolPart]))
      (fun s h' => absurd h'.isToolPart (by simp [h.isToolPart]))
      fun h' => h.ne_blockStop h'.kind

end Underway

/-! ### What is under way, and what the accumulator holds -/

namespace Accumulator

/-- The accumulator holds the calls that are under way after events, and no others. -/
def Holds (a : Accumulator) (past : List Document) : Prop :=
  ∀ i p, a.get? (.number i) = some p ↔
    ∃ id name parts, Underway i past id name parts ∧ p = ⟨.str id, .str name, parts⟩

theorem holds_nil : Holds {} [] := by
  intro i p
  constructor
  · intro h
    cases h
  · rintro ⟨id, name, parts, hunder, -⟩
    cases hunder

namespace Holds

variable {a : Accumulator} {past : List Document} {event : Document} {i : Int} {id name s : String}

theorem get?_eq_none (h : Holds a past) :
    a.get? (.number i) = none ↔ ∀ id name parts, ¬ Underway i past id name parts := by
  rw [Option.eq_none_iff_forall_ne_some]
  constructor
  · intro hnone id name parts hunder
    exact hnone _ ((h i _).mpr ⟨id, name, parts, hunder, rfl⟩)
  · intro hidle p hp
    obtain ⟨id, name, parts, hunder, -⟩ := (h i p).mp hp
    exact hidle id name parts hunder

theorem startsCall (h : Holds a past) (he : StartsCall i id name event) :
    Holds (a.put (.number i) { id := .str id, name := .str name }) (event :: past) := by
  intro j p
  simp only [get?_put, Underway.cons_startsCall he]
  by_cases hij : i = j
  · simp [hij, eq_comm]
  · simp only [if_neg hij]
    exact h j p

theorem extendsCall (h : Holds a past) (he : ExtendsCall i s event) :
    Holds (match a.get? (.number i) with
      | none => a
      | some p => a.put (.number i) { p with fragments := p.fragments ++ [s] })
      (event :: past) := by
  intro j p
  simp only [Underway.cons_extendsCall he]
  cases hget : a.get? (.number i) with
  | none =>
      have hidle := h.get?_eq_none.mp hget
      dsimp only
      rw [h j p]
      by_cases hij : i = j
      · subst hij
        simp [hidle]
      · simp [hij]
  | some q =>
      obtain ⟨id, name, parts, hunder, rfl⟩ := (h i q).mp hget
      dsimp only
      rw [get?_put]
      by_cases hij : i = j
      · subst hij
        simp only [if_true, Option.some.injEq]
        constructor
        · rintro rfl
          exact ⟨id, name, _, ⟨parts, hunder, rfl⟩, rfl⟩
        · rintro ⟨id', name', _, ⟨parts', hunder', rfl⟩, rfl⟩
          obtain ⟨rfl, rfl, rfl⟩ := hunder.unique hunder'
          rfl
      · simp only [if_neg hij]
        exact h j p

theorem stopsBlock (h : Holds a past) (he : StopsBlock i event) :
    Holds (a.erase (.number i)) (event :: past) := by
  intro j p
  simp only [get?_erase, Underway.cons_stopsBlock he]
  by_cases hij : i = j
  · simp [hij]
  · simp only [ne_eq, hij, not_false_eq_true, true_and]
    exact h j p

theorem idle_stopsBlock (h : Holds a past) (he : StopsBlock i event)
    (hidle : a.get? (.number i) = none) : Holds a (event :: past) := by
  intro j p
  rw [h j p]
  simp only [Underway.cons_stopsBlock he]
  have hnot := h.get?_eq_none.mp hidle
  constructor
  · rintro ⟨id, name, parts, hunder, rfl⟩
    exact ⟨id, name, parts, ⟨fun hij => hnot id name parts (hij ▸ hunder), hunder⟩, rfl⟩
  · rintro ⟨id, name, parts, ⟨-, hunder⟩, rfl⟩
    exact ⟨id, name, parts, hunder, rfl⟩

theorem imparts {bodies : List Body} {reason : Option FinishReason} (h : Holds a past)
    (he : Imparts event bodies reason) : Holds a (event :: past) := by
  intro j p
  simp only [h j p, Underway.cons_imparts he]

end Holds

end Accumulator

end Parley
