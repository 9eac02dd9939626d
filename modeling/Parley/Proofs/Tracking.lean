/-
What an accumulator keeps track of.

Events may come in any order: fragments and stops of calls that were never started,
starts of calls that are never stopped, several calls at once.  After any of them the
accumulator holds the calls that are left open, `LeftOpen`, which is said of the events
alone: a call is left open by the latest start in its block if no stop of the block came
after it.  What comes of the events about one block is what would come of them without
all the others, since a feed looks at the call of its own block only and changes no other.
-/
import Mathlib.Data.List.Induction
import Mathlib.Data.List.Nodup
import Parley.Proofs.Input

namespace Parley

/-! ### Events of the right types -/

namespace Value

/-- A text. -/
def IsText (v : Document) : Prop := ∃ s, v = .str s

/-- A whole number. -/
def IsWhole (v : Document) : Prop := ∃ i, v = .int i

/-- A dictionary. -/
def IsDictionary (v : Document) : Prop := ∃ entries, v = .obj entries

/-- Whatever a value has at a path is of some sort. -/
def Only (v : Document) (path : List String) (sort : Document → Prop) : Prop :=
  ∀ w, v.at? path = some w → sort w

/-- The whole number that a value is. -/
def asWhole? : Document → Option Int
  | .int i => some i
  | _ => none

end Value

namespace EventKind

/-- Whether events of a kind are about a block. -/
def isBlock : EventKind → Bool
  | .blockStart | .blockDelta | .blockStop => true
  | _ => false

/-- The part of an event that may be about a call: a dictionary, and in it, if it is about a call,
another one that has texts under some keys. -/
structure TypedPart (kind : EventKind) (event : Document) (part : String) (keys : List String) :
    Prop where
  dictionary : event.Only [kind.key, part] Value.IsDictionary
  use : event.Only [kind.key, part, "toolUse"] fun v => v = .null ∨ v.IsDictionary
  texts : ∀ key ∈ keys, event.Only [kind.key, part, "toolUse", key] Value.IsText

end EventKind

/-- An event whose body is of the right types, as far as it is looked at, with a whole number as the
index of its block.  Nothing is said about which events come before it. -/
structure WellTyped (event : Document) : Prop where
  index : (EventKind.ofEvent event).isBlock = true →
    event.Only [(EventKind.ofEvent event).key, "contentBlockIndex"] Value.IsWhole
  start : EventKind.ofEvent event = .blockStart →
    EventKind.TypedPart .blockStart event "start" ["toolUseId", "name"]
  delta : EventKind.ofEvent event = .blockDelta →
    EventKind.TypedPart .blockDelta event "delta" ["input"]

/-- The index of the block that an event is about, if it is about one. -/
def blockOf? (event : Document) : Option Int :=
  let kind := EventKind.ofEvent event
  if kind.isBlock then (kind.indexOf event).asWhole? else none

/-- Whether an event is about the block with an index. -/
def concerns (i : Int) (event : Document) : Bool := blockOf? event == some i

/-- The fragment of the input of a call that an event carries for the block with an index. -/
def fragmentFor? (i : Int) (event : Document) : Option String :=
  if EventKind.ofEvent event = .blockDelta ∧ concerns i event = true then
    match event.at? [EventKind.key .blockDelta, "delta", "toolUse"] with
    | some (.obj entries) => ((Entries.get? entries "input").getD (.str "")).asString?
    | _ => none
  else none

/-- **A call that is left open by events** in the block with an index: it is that of the latest
start in the block, no stop of the block has come since, and `parts` are the fragments since
then. -/
def LeftOpen (i : Int) (events : List Document) (id name : String) (parts : List String) : Prop :=
  ∃ before start after, events = before ++ start :: after ∧ StartsCall i id name start ∧
    (∀ e ∈ after, (∀ id name, ¬ StartsCall i id name e) ∧ ¬ StopsBlock i e) ∧
    parts = after.filterMap (fragmentFor? i)

/-! ### What events are about -/

section About

variable {event : Document} {i j : Int} {id name s : String}

theorem blockOf?_eq {kind : EventKind} (hkind : EventKind.ofEvent event = kind)
    (hblock : kind.isBlock = true) (hindex : kind.indexOf event = .int i) :
    blockOf? event = some i := by
  unfold blockOf?
  rw [hkind]
  dsimp only
  rw [if_pos hblock, hindex]
  rfl

theorem StartsCall.blockOf? (h : StartsCall i id name event) : blockOf? event = some i :=
  blockOf?_eq h.kind rfl h.index

theorem ExtendsCall.blockOf? (h : ExtendsCall i s event) : blockOf? event = some i :=
  blockOf?_eq h.kind rfl h.index

theorem StopsBlock.blockOf? (h : StopsBlock i event) : blockOf? event = some i :=
  blockOf?_eq h.kind rfl h.index

theorem concerns_iff (h : blockOf? event = some j) : concerns i event = true ↔ j = i := by
  unfold concerns
  rw [h]
  simp

theorem indexOf_of_concerns {kind : EventKind} (hkind : EventKind.ofEvent event = kind)
    (h : concerns i event = true) : kind.indexOf event = .int i := by
  have hblock : blockOf? event = some i := by simpa [concerns] using h
  unfold Parley.blockOf? at hblock
  rw [hkind] at hblock
  dsimp only at hblock
  split at hblock
  · cases hindex : kind.indexOf event <;> rw [hindex] at hblock <;> cases hblock
    rfl
  · cases hblock

theorem fragmentFor?_eq_some : fragmentFor? i event = some s ↔ ExtendsCall i s event := by
  unfold fragmentFor?
  constructor
  · intro h
    split at h
    · rename_i hdelta
      split at h
      · rename_i entries huse
        refine ⟨hdelta.1, indexOf_of_concerns hdelta.1 hdelta.2, entries, huse, ?_⟩
        cases hinput : (Entries.get? entries "input").getD (.str "") <;>
          rw [hinput] at h <;> cases h
        rfl
      · cases h
    · cases h
  · intro h
    obtain ⟨entries, huse, hinput⟩ := h.use
    rw [if_pos ⟨h.kind, (concerns_iff h.blockOf?).mpr rfl⟩, huse]
    dsimp only
    rw [hinput]
    rfl

end About

/-- A call stays open until its block is begun anew or ends. -/
theorem LeftOpen.snoc {i : Int} {events : List Document} {id name : String} {parts : List String}
    (h : LeftOpen i events id name parts) {e : Document}
    (hstart : ∀ id name, ¬ StartsCall i id name e) (hstop : ¬ StopsBlock i e) :
    LeftOpen i (events ++ [e]) id name (parts ++ (fragmentFor? i e).toList) := by
  obtain ⟨before, start, after, rfl, hbegun, hlast, rfl⟩ := h
  refine ⟨before, start, after ++ [e], by simp, hbegun, fun d hd => ?_, ?_⟩
  · rcases List.mem_append.mp hd with hd | hd
    · exact hlast d hd
    · obtain rfl := List.mem_singleton.mp hd
      exact ⟨hstart, hstop⟩
  · rw [List.filterMap_append]
    cases hfragment : fragmentFor? i e <;> simp [hfragment]

/-- What the events alone leave open is what is read off them one by one. -/
theorem leftOpen_iff {i : Int} {past : List Document} {id name : String} {parts : List String} :
    LeftOpen i past.reverse id name parts ↔ Underway i past id name parts := by
  constructor
  · rintro ⟨before, start, after, hpast, hstart, hlast, rfl⟩
    obtain rfl : past = after.reverse ++ start :: before.reverse := by
      rw [← List.reverse_reverse past, hpast]
      simp
    clear hpast
    induction after using List.reverseRecOn with
    | nil => exact .start hstart
    | append_singleton after e ih =>
        obtain ⟨hnostart, hnostop⟩ := hlast e (by simp)
        have hunder := ih fun d hd => hlast d (by simp [hd])
        rw [List.reverse_append, List.filterMap_append]
        cases hfragment : fragmentFor? i e with
        | some s =>
            simpa [hfragment] using Underway.fragment (fragmentFor?_eq_some.mp hfragment) hunder
        | none =>
            have hnone : ∀ s, ¬ ExtendsCall i s e := fun s h => by
              rw [fragmentFor?_eq_some.mpr h] at hfragment
              cases hfragment
            simpa [hfragment] using Underway.other hnostart hnone hnostop hunder
  · intro h
    induction h with
    | @start event past id name h => exact ⟨past.reverse, event, [], by simp, h, by simp, rfl⟩
    | fragment h _ ih =>
        have hopen := ih.snoc (fun id name h' => by cases h.kind.symm.trans h'.kind)
          (fun h' => by cases h.kind.symm.trans h'.kind)
        rwa [fragmentFor?_eq_some.mpr h, ← List.reverse_cons] at hopen
    | other hnostart hextend hnostop _ ih =>
        have hopen := ih.snoc hnostart hnostop
        rwa [Option.eq_none_iff_forall_ne_some.mpr fun s hs =>
          hextend s (fragmentFor?_eq_some.mp hs), Option.toList_none, List.append_nil,
          ← List.reverse_cons] at hopen

/-! ### What a feed does -/

/-- An event that is about no call. -/
structure Passes (event : Document) : Prop where
  feed : ∀ a : Accumulator, a.feed event = (a, {})
  start : ∀ i id name, ¬ StartsCall i id name event
  fragment : ∀ i s, ¬ ExtendsCall i s event
  stop : ∀ i, ¬ StopsBlock i event

/-- What an event of the right types may do. -/
inductive Acts (event : Document) : Prop
  | start {i : Int} {id name : String} (h : StartsCall i id name event)
  | fragment {i : Int} {s : String} (h : ExtendsCall i s event)
  | stop {i : Int} (h : StopsBlock i event)
  | pass (h : Passes event)

namespace EventKind

variable {kind : EventKind} {event : Document} {part : String} {keys : List String}

/-- Where a part is of the right types, it tells whether it is about a call. -/
theorem TypedPart.toolPart (h : kind.TypedPart event part keys) :
    Accumulator.toolPart (kind.payload event) part =
      .ok ((event.at? [kind.key, part, "toolUse"]).getD .null) := by
  have hat := Value.at?_concat event [kind.key, part] "toolUse"
  rw [List.cons_append, List.cons_append, List.nil_append] at hat
  unfold Accumulator.toolPart
  rw [get?_payload, hat]
  cases hpart : event.at? [kind.key, part] with
  | none => rfl
  | some v =>
      obtain ⟨entries, rfl⟩ := h.dictionary v hpart
      rfl

/-- A text under one of the keys of a call, or the empty one. -/
theorem TypedPart.text (h : kind.TypedPart event part keys) {entries : Properties}
    (huse : event.at? [kind.key, part, "toolUse"] = some (.obj entries)) (key : String)
    (hkey : key ∈ keys) : ∃ s, (Entries.get? entries key).getD (.str "") = .str s := by
  have hat := Value.at?_concat event [kind.key, part, "toolUse"] key
  rw [huse] at hat
  cases hget : Entries.get? entries key with
  | none => exact ⟨"", rfl⟩
  | some v =>
      obtain ⟨s, rfl⟩ := h.texts key hkey v (hat.trans hget)
      exact ⟨s, rfl⟩

end EventKind

namespace Passes

variable {event use : Document}

theorem of_start (hkind : EventKind.ofEvent event = .blockStart)
    (hpart : Accumulator.toolPart (EventKind.payload .blockStart event) "start" = .ok use)
    (hunset : use.isSet = false) : Passes event where
  feed a := by
    have hstart (index : Document) :
        a.start (EventKind.payload .blockStart event) index = .ok a := by
      unfold Accumulator.start
      rw [hpart, Outcome.ok_bind, hunset]
      rfl
    unfold Accumulator.feed
    rw [hkind]
    dsimp only
    rw [hstart]
  start i id name h := by
    obtain ⟨entries, huse, hne, -⟩ := h.use
    obtain rfl := Except.ok.inj (hpart.symm.trans (Accumulator.toolPart_payload huse))
    exact hne (by simpa [Value.isSet] using hunset)
  fragment i s h := by cases hkind.symm.trans h.kind
  stop i h := by cases hkind.symm.trans h.kind

theorem of_delta (hkind : EventKind.ofEvent event = .blockDelta)
    (hpart : Accumulator.toolPart (EventKind.payload .blockDelta event) "delta" = .ok .null) :
    Passes event where
  feed a := by
    have hextend (index : Document) :
        a.extend (EventKind.payload .blockDelta event) index = .ok a := by
      unfold Accumulator.extend
      rw [hpart]
      rfl
    unfold Accumulator.feed
    rw [hkind]
    dsimp only
    rw [hextend]
  start i id name h := by cases hkind.symm.trans h.kind
  fragment i s h := by
    obtain ⟨entries, huse, -⟩ := h.use
    cases hpart.symm.trans (Accumulator.toolPart_payload huse)
  stop i h := by cases hkind.symm.trans h.kind

theorem of_not_block (h : (EventKind.ofEvent event).isBlock = false) : Passes event where
  feed a := by
    unfold Accumulator.feed
    cases hkind : EventKind.ofEvent event <;> rw [hkind] at h <;> first | rfl | cases h
  start i id name h' := by simp [h'.kind, EventKind.isBlock] at h
  fragment i s h' := by simp [h'.kind, EventKind.isBlock] at h
  stop i h' := by simp [h'.kind, EventKind.isBlock] at h

end Passes

namespace WellTyped

variable {event : Document}

theorem exists_index (h : WellTyped event) {kind : EventKind}
    (hkind : EventKind.ofEvent event = kind) (hblock : kind.isBlock = true) :
    ∃ i : Int, kind.indexOf event = .int i := by
  subst hkind
  unfold EventKind.indexOf
  cases hat : event.at? [(EventKind.ofEvent event).key, "contentBlockIndex"] with
  | none => exact ⟨0, rfl⟩
  | some v =>
      obtain ⟨i, rfl⟩ := h.index hblock v hat
      exact ⟨i, rfl⟩

/-- The call that a part is about, if it is about one. -/
theorem use_cases {kind : EventKind} {part : String} {keys : List String}
    (h : kind.TypedPart event part keys) :
    Accumulator.toolPart (kind.payload event) part = .ok .null ∨
      ∃ entries, event.at? [kind.key, part, "toolUse"] = some (.obj entries) ∧
        Accumulator.toolPart (kind.payload event) part = .ok (.obj entries) := by
  have hpart := h.toolPart
  cases huse : event.at? [kind.key, part, "toolUse"] with
  | none =>
      rw [huse] at hpart
      exact .inl hpart
  | some v =>
      rw [huse] at hpart
      rcases h.use v huse with rfl | ⟨entries, rfl⟩
      · exact .inl hpart
      · exact .inr ⟨entries, rfl, hpart⟩

theorem acts (h : WellTyped event) : Acts event := by
  cases hkind : EventKind.ofEvent event with
  | blockStart =>
      obtain ⟨i, hindex⟩ := h.exists_index hkind rfl
      rcases use_cases (h.start hkind) with hpart | ⟨entries, huse, hpart⟩
      · exact .pass (.of_start hkind hpart rfl)
      · by_cases hempty : entries = []
        · subst hempty
          exact .pass (.of_start hkind hpart rfl)
        · obtain ⟨id, hid⟩ := (h.start hkind).text huse "toolUseId" (by simp)
          obtain ⟨name, hname⟩ := (h.start hkind).text huse "name" (by simp)
          exact .start ⟨hkind, hindex, entries, huse, hempty, hid, hname⟩
  | blockDelta =>
      obtain ⟨i, hindex⟩ := h.exists_index hkind rfl
      rcases use_cases (h.delta hkind) with hpart | ⟨entries, huse, -⟩
      · exact .pass (.of_delta hkind hpart)
      · obtain ⟨s, hinput⟩ := (h.delta hkind).text huse "input" (by simp)
        exact .fragment ⟨hkind, hindex, entries, huse, hinput⟩
  | blockStop =>
      obtain ⟨i, hindex⟩ := h.exists_index hkind rfl
      exact .stop ⟨hkind, hindex⟩
  | _ => exact .pass (.of_not_block (by rw [hkind]; rfl))

end WellTyped

theorem Underway.cons_passes {i : Int} {event : Document} {past : List Document}
    {id name : String} {parts : List String} (h : Passes event) :
    Underway i (event :: past) id name parts ↔ Underway i past id name parts := by
  constructor
  · intro hunder
    cases hunder with
    | start h' => exact absurd h' (h.start _ _ _)
    | fragment h' => exact absurd h' (h.fragment _ _)
    | other _ _ _ hpast => exact hpast
  · exact .other (h.start i) (h.fragment i) (h.stop i)

namespace Accumulator

variable {a b : Accumulator} {event : Document} {past events : List Document} {i : Int}

/-- The accumulator after events that are fed one behind the other. -/
def after (a : Accumulator) (events : List Document) : Accumulator :=
  events.foldl (fun a e => (a.feed e).1) a

/-- One event keeps what the accumulator holds in step with the events. -/
theorem Holds.feed (h : a.Holds past) (he : WellTyped event) :
    (a.feed event).1.Holds (event :: past) := by
  cases he.acts with
  | start hs =>
      rw [feed_startsCall a hs]
      exact h.startsCall hs
  | fragment hs =>
      rw [feed_extendsCall a hs]
      exact h.extendsCall hs
  | @stop i hs =>
      rw [feed_stopsBlock a hs]
      cases hget : a.get? (.number i) with
      | none => exact h.idle_stopsBlock hs hget
      | some p => exact h.stopsBlock hs
  | pass hp =>
      rw [hp.feed]
      intro j p
      simp only [h j p, Underway.cons_passes hp]

theorem Holds.after (h : a.Holds past) (hevents : ∀ e ∈ events, WellTyped e) :
    (a.after events).Holds (events.reverse ++ past) := by
  induction events generalizing a past with
  | nil => exact h
  | cons e rest ih =>
      rw [List.reverse_cons, List.append_assoc]
      exact ih (h.feed (hevents e (by simp))) fun d hd => hevents d (by simp [hd])

/-! ### The blocks that are held -/

/-- The calls are held at whole numbers, one at each. -/
structure Indexed (a : Accumulator) : Prop where
  whole : ∀ b ∈ a.blocks, ∃ i, b.1 = .number i
  distinct : (a.blocks.map Prod.fst).Nodup

namespace Indexed

theorem erase (h : Indexed a) (i : Key) : Indexed (a.erase i) where
  whole b hb := h.whole b (List.mem_filter.mp hb).1
  distinct := h.distinct.sublist (List.filter_sublist.map Prod.fst)

theorem put (h : Indexed a) (i : Int) (p : Pending) : Indexed (a.put (.number i) p) where
  whole b hb := by
    rcases List.mem_cons.mp hb with rfl | hb
    · exact ⟨i, rfl⟩
    · exact (h.erase (.number i)).whole b hb
  distinct := by
    refine List.nodup_cons.mpr ⟨fun hmem => ?_, (h.erase (.number i)).distinct⟩
    obtain ⟨b, hb, hkey⟩ := List.mem_map.mp hmem
    have hnot := (List.mem_filter.mp hb).2
    simp [Key.same_number, hkey] at hnot

theorem feed (h : Indexed a) (he : WellTyped event) : Indexed (a.feed event).1 := by
  cases he.acts with
  | start hs =>
      rw [feed_startsCall a hs]
      exact h.put _ _
  | @fragment i s hs =>
      rw [feed_extendsCall a hs]
      cases a.get? (.number i) with
      | none => exact h
      | some p => exact h.put _ _
  | @stop i hs =>
      rw [feed_stopsBlock a hs]
      cases a.get? (.number i) with
      | none => exact h
      | some p => exact h.erase _
  | pass hp =>
      rw [hp.feed]
      exact h

theorem after (h : Indexed a) (hevents : ∀ e ∈ events, WellTyped e) :
    Indexed (a.after events) := by
  induction events generalizing a with
  | nil => exact h
  | cons e rest ih => exact ih (h.feed (hevents e (by simp))) fun d hd => hevents d (by simp [hd])

/-- What is held is what is found. -/
theorem mem_iff (h : Indexed a) {k : Key} {p : Pending} :
    (k, p) ∈ a.blocks ↔ ∃ i, k = .number i ∧ a.get? (.number i) = some p := by
  unfold get?
  constructor
  · intro hmem
    obtain ⟨i, hi⟩ := h.whole _ hmem
    refine ⟨i, hi, ?_⟩
    cases hfind : a.blocks.find? fun b => b.1.same (.number i) with
    | none =>
        have hnone := List.find?_eq_none.mp hfind _ hmem
        simp [Key.same_number, show k = .number i from hi] at hnone
    | some b =>
        have hsame : b.1 = .number i := by
          simpa [Key.same_number] using List.find?_some hfind
        have hb : b = (k, p) :=
          List.inj_on_of_nodup_map h.distinct (List.mem_of_find?_eq_some hfind) hmem
            (hsame.trans hi.symm)
        rw [hb]
        rfl
  · rintro ⟨i, rfl, hget⟩
    obtain ⟨b, hfind, rfl⟩ := Option.map_eq_some_iff.mp hget
    have hsame : b.1 = .number i := by
      simpa [Key.same_number] using List.find?_some hfind
    rw [← hsame]
    exact List.mem_of_find?_eq_some hfind

end Indexed

/-! ### One block by itself -/

/-- What comes of the events about the block with an index, when all events are fed. -/
def feedsAt (a : Accumulator) (i : Int) (events : List Document) : List Fed :=
  ((events.zip (a.feeds events)).filter fun e => concerns i e.1).map Prod.snd

/-- An event about a block looks at the call in this block only. -/
theorem feed_same (he : WellTyped event) (hblock : concerns i event = true)
    (h : a.get? (.number i) = b.get? (.number i)) :
    (a.feed event).2 = (b.feed event).2 ∧
      (a.feed event).1.get? (.number i) = (b.feed event).1.get? (.number i) := by
  cases he.acts with
  | start hs =>
      obtain rfl := (concerns_iff hs.blockOf?).mp hblock
      rw [feed_startsCall a hs, feed_startsCall b hs]
      exact ⟨rfl, by rw [get?_put, get?_put, if_pos rfl, if_pos rfl]⟩
  | fragment hs =>
      obtain rfl := (concerns_iff hs.blockOf?).mp hblock
      rw [feed_extendsCall a hs, feed_extendsCall b hs, ← h]
      refine ⟨rfl, ?_⟩
      cases hget : a.get? (.number _) with
      | none => exact h
      | some p => rw [get?_put, get?_put, if_pos rfl, if_pos rfl]
  | stop hs =>
      obtain rfl := (concerns_iff hs.blockOf?).mp hblock
      rw [feed_stopsBlock a hs, feed_stopsBlock b hs, ← h]
      cases hget : a.get? (.number _) with
      | none => exact ⟨rfl, h⟩
      | some p => exact ⟨rfl, by rw [get?_erase, get?_erase, if_pos rfl, if_pos rfl]⟩
  | pass hp =>
      rw [hp.feed, hp.feed]
      exact ⟨rfl, h⟩

/-- An event that is not about a block leaves the call in this block as it is. -/
theorem feed_other (he : WellTyped event) (hblock : concerns i event = false) :
    (a.feed event).1.get? (.number i) = a.get? (.number i) := by
  have hne {j : Int} (h : blockOf? event = some j) : j ≠ i := fun hji => by
    rw [(concerns_iff h).mpr hji] at hblock
    cases hblock
  cases he.acts with
  | start hs => rw [feed_startsCall a hs, get?_put, if_neg (hne hs.blockOf?)]
  | fragment hs =>
      rw [feed_extendsCall a hs]
      cases a.get? (.number _) with
      | none => rfl
      | some p => rw [get?_put, if_neg (hne hs.blockOf?)]
  | stop hs =>
      rw [feed_stopsBlock a hs]
      cases a.get? (.number _) with
      | none => rfl
      | some p => rw [get?_erase, if_neg (hne hs.blockOf?)]
  | pass hp => rw [hp.feed]

/-- **The events about a block are fed as if there were no others.** -/
theorem feedsAt_eq (hevents : ∀ e ∈ events, WellTyped e)
    (h : a.get? (.number i) = b.get? (.number i)) :
    a.feedsAt i events = b.feeds (events.filter (concerns i)) := by
  induction events generalizing a b with
  | nil => rfl
  | cons e rest ih =>
      have he := hevents e (by simp)
      have hrest : ∀ d ∈ rest, WellTyped d := fun d hd => hevents d (by simp [hd])
      unfold feedsAt at ih ⊢
      rw [feeds, List.zip_cons_cons, List.filter_cons, List.filter_cons]
      cases hblock : concerns i e with
      | true =>
          obtain ⟨hfed, hafter⟩ := feed_same he hblock h
          simp only [if_true, List.map_cons, feeds]
          rw [hfed, ih hrest hafter]
      | false =>
          simp only [Bool.false_eq_true, if_false]
          exact ih hrest ((feed_other he hblock).trans h)

/-! ### Calls that are returned -/

/-- The input of each call that comes to its end is blank, an object, or no JSON.  The events before
these ones are listed with the earliest first. -/
def Readable (past : List Document) : List Document → Prop
  | [] => True
  | event :: rest =>
    (∀ i id name parts, StopsBlock i event → LeftOpen i past id name parts →
      ∃ arguments fault, Spells (String.join parts) arguments fault) ∧
    Readable (past ++ [event]) rest

/-- Nothing comes of an event that is about no block. -/
theorem feed_blockless (he : WellTyped event) (h : blockOf? event = none) :
    (a.feed event).2 = {} := by
  cases he.acts with
  | start hs => cases h.symm.trans hs.blockOf?
  | fragment hs => cases h.symm.trans hs.blockOf?
  | stop hs => cases h.symm.trans hs.blockOf?
  | pass hp => rw [hp.feed]

theorem feeds_blockless (hevents : ∀ e ∈ events, WellTyped e) :
    ∀ e ∈ events.zip (a.feeds events), blockOf? e.1 = none → e.2 = {} := by
  induction events generalizing a with
  | nil => simp [feeds]
  | cons d rest ih =>
      intro e he hnone
      rw [feeds, List.zip_cons_cons] at he
      rcases List.mem_cons.mp he with rfl | he
      · exact feed_blockless (hevents d (by simp)) hnone
      · exact ih (fun x hx => hevents x (by simp [hx])) e he hnone

/-- A feed returns if the input of the call that it completes can be read. -/
theorem feed_returns (ha : a.Holds past) (he : WellTyped event)
    (hinput : ∀ i id name parts, StopsBlock i event → Underway i past id name parts →
      ∃ arguments fault, Spells (String.join parts) arguments fault) :
    ∃ call, (a.feed event).2.call = .ok call := by
  cases he.acts with
  | start hs =>
      rw [feed_startsCall a hs]
      exact ⟨none, rfl⟩
  | fragment hs =>
      rw [feed_extendsCall a hs]
      exact ⟨none, rfl⟩
  | @stop i hs =>
      rw [feed_stopsBlock a hs]
      cases hget : a.get? (.number i) with
      | none => exact ⟨none, rfl⟩
      | some p =>
          obtain ⟨id, name, parts, hunder, rfl⟩ := (ha i p).mp hget
          obtain ⟨arguments, fault, hspells⟩ := hinput i id name parts hs hunder
          obtain ⟨notes, hcomplete⟩ := Pending.complete_spells hspells id name event
          dsimp only
          rw [hcomplete]
          exact ⟨_, rfl⟩
  | pass hp =>
      rw [hp.feed]
      exact ⟨none, rfl⟩

theorem feeds_return {before : List Document} (ha : a.Holds before.reverse)
    (hevents : ∀ e ∈ events, WellTyped e) (hinputs : Readable before events) :
    ∀ fed ∈ a.feeds events, ∃ call, fed.call = .ok call := by
  induction events generalizing a before with
  | nil => simp [feeds]
  | cons e rest ih =>
      obtain ⟨hinput, hmore⟩ := hinputs
      have he := hevents e (by simp)
      intro fed hfed
      rcases List.mem_cons.mp hfed with rfl | hfed
      · refine feed_returns ha he fun i id name parts hstop hunder =>
          hinput i id name parts hstop ?_
        rw [← List.reverse_reverse before]
        exact leftOpen_iff.mpr hunder
      · refine ih ?_ (fun d hd => hevents d (by simp [hd])) hmore fed hfed
        rw [List.reverse_append]
        exact ha.feed he

/-! ### After any events -/

/-- How an accumulator that was empty stands after events, and what came of them. -/
structure Tracked (events : List Document) : Prop where
  /-- The calls that are left open are held at the indices of their blocks, and nothing else is. -/
  held : ∀ k p, (k, p) ∈ (after {} events).blocks ↔ ∃ i id name parts, k = .number i ∧
    p = ⟨.str id, .str name, parts⟩ ∧ LeftOpen i events id name parts
  once : ((after {} events).blocks.map Prod.fst).Nodup
  pending : (after {} events).pending = true ↔ ∃ i id name parts, LeftOpen i events id name parts
  /-- What came of the events about a block comes of them alone. -/
  isolated : ∀ i, feedsAt {} i events = feeds {} (events.filter (concerns i))
  /-- Nothing came of the other events. -/
  silent : ∀ e ∈ events.zip (feeds {} events), blockOf? e.1 = none → e.2 = {}
  returned : Readable [] events → ∀ fed ∈ feeds {} events, ∃ call, fed.call = .ok call

/-- What is found in a block after events is what they leave open there. -/
theorem get?_after (h : ∀ e ∈ events, WellTyped e) (i : Int) (p : Pending) :
    (after {} events).get? (.number i) = some p ↔
      ∃ id name parts, p = ⟨.str id, .str name, parts⟩ ∧ LeftOpen i events id name parts := by
  have hholds := holds_nil.after h
  rw [List.append_nil] at hholds
  rw [hholds i p]
  conv_rhs => rw [← List.reverse_reverse events]
  simp only [leftOpen_iff, and_comm]

/-- **After any events the calls that are left open are held**, and each block was dealt with by
itself. -/
theorem tracked (events : List Document) (h : ∀ e ∈ events, WellTyped e) : Tracked events := by
  have hindexed : Indexed (after {} events) := Indexed.after ⟨by simp, by simp⟩ h
  have hheld (k : Key) (p : Pending) : (k, p) ∈ (after {} events).blocks ↔
      ∃ i id name parts, k = .number i ∧ p = ⟨.str id, .str name, parts⟩ ∧
        LeftOpen i events id name parts := by
    simp only [hindexed.mem_iff, get?_after h, exists_and_left]
  refine ⟨hheld, hindexed.distinct, ?_, fun i => feedsAt_eq h rfl, feeds_blockless h,
    feeds_return holds_nil h⟩
  constructor
  · intro hpending
    cases hblocks : (after {} events).blocks with
    | nil => simp [Accumulator.pending, hblocks] at hpending
    | cons b rest =>
        obtain ⟨i, id, name, parts, -, -, hopen⟩ := (hheld b.1 b.2).mp (by simp [hblocks])
        exact ⟨i, id, name, parts, hopen⟩
  · rintro ⟨i, id, name, parts, hopen⟩
    have hmem := (hheld _ _).mpr ⟨i, id, name, parts, rfl, rfl, hopen⟩
    cases hblocks : (after {} events).blocks with
    | nil => simp [hblocks] at hmem
    | cons b rest => simp [Accumulator.pending, hblocks]

open EventKind

theorem wellTyped_callStart (i : Int) (id name : String) : WellTyped (callStart i id name) where
  index _ v hv := ⟨i, (Option.some.inj hv).symm⟩
  start _ := by
    refine ⟨fun v hv => ⟨_, (Option.some.inj hv).symm⟩,
      fun v hv => .inr ⟨_, (Option.some.inj hv).symm⟩, fun key hkey v hv => ?_⟩
    rcases List.mem_pair.mp hkey with rfl | rfl
    · exact ⟨id, (Option.some.inj hv).symm⟩
    · exact ⟨name, (Option.some.inj hv).symm⟩
  delta h := by cases (startsCall_callStart i id name).kind.symm.trans h

theorem wellTyped_callFragment (i : Int) (s : String) : WellTyped (callFragment i s) where
  index _ v hv := ⟨i, (Option.some.inj hv).symm⟩
  start h := by cases (extendsCall_callFragment i s).kind.symm.trans h
  delta _ := by
    refine ⟨fun v hv => ⟨_, (Option.some.inj hv).symm⟩,
      fun v hv => .inr ⟨_, (Option.some.inj hv).symm⟩, fun key hkey v hv => ?_⟩
    obtain rfl := List.mem_singleton.mp hkey
    exact ⟨s, (Option.some.inj hv).symm⟩

theorem wellTyped_stopAt (i : Int) : WellTyped (stopAt i) where
  index _ v hv := ⟨i, (Option.some.inj hv).symm⟩
  start h := by cases (stopsBlock_stopAt i).kind.symm.trans h
  delta h := by cases (stopsBlock_stopAt i).kind.symm.trans h

/-- A fragment and a stop without a call, a call that is begun anew before it ends, and another one
that ends in between. -/
def strayed : List Document :=
  [callFragment 0 "x", callStart 0 "t1" "add", callStart 1 "t2" "find", stopAt 2, stopAt 1,
    callStart 0 "t3" "sum", callFragment 0 "\x7b"]

theorem wellTyped_strayed : ∀ e ∈ strayed, WellTyped e := by
  simp [strayed, wellTyped_callStart, wellTyped_callFragment, wellTyped_stopAt]

theorem readable_strayed : Readable [] strayed := by
  have hskip {event : Document} (hkind : EventKind.ofEvent event ≠ .blockStop)
      {past : List Document} (i : Int) (id name : String) (parts : List String)
      (h : StopsBlock i event) (_ : LeftOpen i past id name parts) :
      ∃ arguments fault, Spells (String.join parts) arguments fault := absurd h.kind hkind
  have hfound {n : Nat} {i : Int} {id name : String} {parts : List String}
      (h : LeftOpen i (strayed.take n) id name parts) :
      (after {} (strayed.take n)).get? (.number i) = some ⟨.str id, .str name, parts⟩ :=
    (get?_after (fun e he => wellTyped_strayed e (List.mem_of_mem_take he)) i _).mpr
      ⟨id, name, parts, rfl, h⟩
  refine ⟨hskip (by decide), hskip (by decide), hskip (by decide), ?_, ?_, hskip (by decide),
    hskip (by decide), trivial⟩
  · intro i id name parts hstop hopen
    obtain rfl := hstop.unique (stopsBlock_stopAt 2)
    have hnone : none = some (Pending.mk (.str id) (.str name) parts) := hfound (n := 3) hopen
    cases hnone
  · intro i id name parts hstop hopen
    obtain rfl := hstop.unique (stopsBlock_stopAt 1)
    have hsome : some (Pending.mk (.str "t2") (.str "find") []) =
        some ⟨.str id, .str name, parts⟩ := hfound (n := 4) hopen
    obtain rfl : [] = parts := (Pending.mk.inj (Option.some.inj hsome)).2.2
    exact ⟨_, _, .blank rfl⟩

/-- The second start of a block counts, and the call beside it is returned as it would be alone. -/
theorem strayed_tracked :
    LeftOpen 0 strayed "t3" "sum" ["\x7b"] ∧
      feedsAt {} 1 strayed = feeds {} [callStart 1 "t2" "find", stopAt 1] ∧
      ∀ fed ∈ feeds {} strayed, ∃ call, fed.call = .ok call := by
  have htracked := tracked strayed wellTyped_strayed
  have hmem : (Key.number 0, Pending.mk (.str "t3") (.str "sum") ["\x7b"]) ∈
      (after {} strayed).blocks := List.mem_cons_self
  obtain ⟨i, id, name, parts, hi, hp, hopen⟩ := (htracked.held _ _).mp hmem
  obtain ⟨hid, hname, rfl⟩ := Pending.mk.inj hp
  obtain rfl := Key.number.inj hi
  obtain rfl := Value.str.inj hid
  obtain rfl := Value.str.inj hname
  exact ⟨hopen, htracked.isolated 1, htracked.returned readable_strayed⟩

end Accumulator

end Parley
