/-
What becomes of the input of a call.

The input of a streamed call is a JSON text.  It is read when the call is complete, and
what was read has to be kept as the arguments of the call, which are a dictionary, a
text or nothing.  When the arguments are parsed, a text is read once more.  An object
gets through; an array, a number and a truth value are refused, nothing stays
nothing, and a string is taken for the text of something else.  Reading a string again
never gives it back, because what is read is shorter than its text.
-/
import Parley.Proofs.Translation

namespace Parley

/-! ### Arguments -/

/-- The dictionary that stands for a JSON value: an object is its own, and any other value is put
under the key `raw`. -/
def Value.asArguments : Document → Properties
  | .obj entries => entries
  | v => [("raw", v)]

theorem Call.parsed_text {c : Call} {s : String} (h : c.arguments = .text s)
    (hblank : s.toList.all Text.isBlank = false) :
    c.parsed = ((Json.parse s).mapError Fault.ofJson).map fun w => some w.asArguments := by
  unfold parsed
  rw [h]
  dsimp only
  rw [hblank, if_neg Bool.false_ne_true]
  rcases Json.parse s with flaw | w
  · rfl
  · cases w <;> rfl

/-- No text stands for itself. -/
theorem Json.asArguments_ne_of_parse {t : String} {w : Document} (h : Json.parse t = .ok w) :
    w.asArguments ≠ [("raw", .str t)] := by
  intro heq
  have hfits := parse_fits h
  have hlt : t.length < t.length := by
    cases w with
    | obj entries =>
        refine hfits.entry entries rfl "raw" t ?_
        rw [show entries = [("raw", .str t)] from heq]
        rfl
    | str u =>
        obtain rfl : u = t := by simpa [Value.asArguments] using heq
        exact hfits.string u rfl
    | _ => simp [Value.asArguments] at heq
  exact Nat.lt_irrefl _ hlt

/-- **Only an object is parsed from the arguments that a JSON value is kept as.** -/
theorem Call.parsed_ofInput_iff {c : Call} {s : String} {v : Document}
    (h : Json.parse s = .ok v) (hkept : Arguments.ofInput? v = some c.arguments) :
    c.parsed = .ok (some v.asArguments) ↔ ∃ entries, v = .obj entries := by
  constructor
  · intro hparsed
    cases v with
    | obj entries => exact ⟨entries, rfl⟩
    | str t =>
        exfalso
        have htext : c.arguments = .text t := (Option.some.inj hkept).symm
        by_cases hblank : t.toList.all Text.isBlank = true
        · unfold parsed at hparsed
          rw [htext] at hparsed
          dsimp only at hparsed
          rw [if_pos hblank] at hparsed
          cases hparsed
        · rw [parsed_text htext (by simpa using hblank)] at hparsed
          cases hagain : (Json.parse t : Except Json.Flaw Document) with
          | error flaw =>
              rw [hagain] at hparsed
              cases hparsed
          | ok w =>
              rw [hagain] at hparsed
              exact Json.asArguments_ne_of_parse hagain
                (Option.some.inj (Except.ok.inj hparsed))
    | null =>
        exfalso
        unfold parsed at hparsed
        rw [show c.arguments = .absent from (Option.some.inj hkept).symm] at hparsed
        cases hparsed
    | _ => cases hkept
  · rintro ⟨entries, rfl⟩
    unfold parsed
    rw [show c.arguments = .entries entries from (Option.some.inj hkept).symm]
    rfl

/-! ### A call from its start to its stop -/

namespace Accumulator

/-- What comes of events that are fed one behind the other. -/
def feeds (a : Accumulator) : List Document → List Fed
  | [] => []
  | event :: rest => (a.feed event).2 :: (a.feed event).1.feeds rest

variable {a : Accumulator} {i : Int} {id name : String} {parts : List String} {v : Document}
  {start stop : Document} {fragments : List Document}

/-- Nothing comes of fragments, but they are kept in their order. -/
theorem feeds_fragments {p : Pending} (h : List.Forall₂ (ExtendsCall i) parts fragments)
    (hget : a.get? (.number i) = some p) :
    ∃ b : Accumulator, b.get? (.number i) = some { p with fragments := p.fragments ++ parts } ∧
      ∀ rest, a.feeds (fragments ++ rest) =
        List.replicate fragments.length ({} : Fed) ++ b.feeds rest := by
  induction h generalizing a p with
  | nil => exact ⟨a, by simpa using hget, fun rest => rfl⟩
  | @cons s event parts fragments hevent _ ih =>
      have hfeed : a.feed event =
          (a.put (.number i) { p with fragments := p.fragments ++ [s] }, {}) := by
        rw [feed_extendsCall a hevent, hget]
      have hput : (a.put (.number i) { p with fragments := p.fragments ++ [s] }).get? (.number i) =
          some { p with fragments := p.fragments ++ [s] } := by
        rw [get?_put, if_pos rfl]
      obtain ⟨b, hb, hfeeds⟩ := ih hput
      refine ⟨b, by simpa using hb, fun rest => ?_⟩
      rw [List.cons_append, feeds, hfeed, hfeeds, List.length_cons, List.replicate_succ,
        List.cons_append]

/-- A call that is fed from its start to its stop is completed by the stop, with the input that its
fragments spell. -/
theorem feeds_call (a : Accumulator) (hstart : StartsCall i id name start)
    (hfragments : List.Forall₂ (ExtendsCall i) parts fragments) (hstop : StopsBlock i stop) :
    a.feeds (start :: fragments ++ [stop]) = List.replicate (fragments.length + 1) ({} : Fed) ++
      [(Pending.mk (.str id) (.str name) parts).complete stop] := by
  have hput : (a.put (.number i) { id := .str id, name := .str name }).get? (.number i) =
      some { id := .str id, name := .str name } := by
    rw [get?_put, if_pos rfl]
  obtain ⟨b, hb, hfeeds⟩ := feeds_fragments hfragments hput
  have hlast : b.feeds [stop] = [(Pending.mk (.str id) (.str name) parts).complete stop] := by
    rw [feeds, feed_stopsBlock b hstop, hb]
    rfl
  rw [List.cons_append, feeds, feed_startsCall a hstart, hfeeds, hlast, List.replicate_succ,
    List.cons_append]

/-- **The input of a call survives being streamed exactly if it is an object.**  Whatever JSON value
the fragments spell, the stop alone completes the call; that ends with a fault exactly if the value
is not kept, and the arguments of the call are parsed to the value exactly if it is an object.  Left
out are texts that spell a value and cannot be read (`Json.parse`), since a number in them has too
many digits or they are nested too deep. -/
theorem feeds_input_iff (a : Accumulator) (hstart : StartsCall i id name start)
    (hfragments : List.Forall₂ (ExtendsCall i) parts fragments) (hstop : StopsBlock i stop)
    (hv : Json.parse (String.join parts) = .ok v) :
    ∃ last, a.feeds (start :: fragments ++ [stop]) =
        List.replicate (fragments.length + 1) ({} : Fed) ++ [last] ∧
      (last.call = .error Arguments.refusal ↔ Arguments.ofInput? v = none) ∧
      ((∃ content call, last.call = .ok (some content) ∧ content.call? = some call ∧
        call.parsed = .ok (some v.asArguments)) ↔ ∃ entries, v = .obj entries) := by
  have hcomplete := Pending.complete_parsed hv id name stop
  refine ⟨_, feeds_call a hstart hfragments hstop, ?_, ?_⟩
  · rw [hcomplete]
    cases Arguments.ofInput? v <;> simp
  · rw [hcomplete]
    cases hkept : Arguments.ofInput? v with
    | none =>
        constructor
        · rintro ⟨content, call, hcall, -⟩
          cases hcall
        · rintro ⟨entries, rfl⟩
          cases hkept
    | some arguments =>
        constructor
        · rintro ⟨content, call, hcall, hrequested, hparsed⟩
          obtain rfl := Option.some.inj (Except.ok.inj hcall)
          obtain rfl := Option.some.inj hrequested
          exact (Call.parsed_ofInput_iff hv hkept).mp hparsed
        · intro hobject
          exact ⟨_, ⟨id, name, arguments, none⟩, rfl, rfl,
            (Call.parsed_ofInput_iff hv hkept).mpr hobject⟩

/-- A text that spells a value which is not kept. -/
theorem exists_parsed_refused {s : String}
    (h : ((Json.parse s).toOption.any fun v => (Arguments.ofInput? v).isNone) = true) :
    ∃ v, Json.parse s = .ok v ∧ Arguments.ofInput? v = none := by
  cases hv : (Json.parse s : Except Json.Flaw Document) with
  | error f =>
      rw [hv] at h
      cases h
  | ok v =>
      rw [hv] at h
      exact ⟨v, rfl, Option.isNone_iff_eq_none.mp h⟩

open EventKind

/-- An array is refused, in however many fragments it comes. -/
theorem feeds_array_refused :
    ∃ last, ({} : Accumulator).feeds [callStart 0 "t1" "add", callFragment 0 "[\"x\"",
        callFragment 0 "]", stopAt 0] = [{}, {}, {}, last] ∧
      last.call = .error Arguments.refusal := by
  obtain ⟨v, hv, hrefused⟩ : ∃ v, Json.parse (String.join ["[\"x\"", "]"]) = .ok v ∧
      Arguments.ofInput? v = none := exists_parsed_refused (by decide +kernel)
  obtain ⟨last, hfeeds, hfault, -⟩ := feeds_input_iff {} (startsCall_callStart 0 "t1" "add")
    (.cons (extendsCall_callFragment 0 _) (.cons (extendsCall_callFragment 0 _) .nil))
    (stopsBlock_stopAt 0) hv
  exact ⟨last, hfeeds, hfault.mpr hrefused⟩

/-- Not every JSON value survives. -/
theorem not_every_input_survives :
    ¬ ∀ (id name : String) (parts : List String) (v : Document),
      Json.parse (String.join parts) = .ok v →
      ∃ last content call, ({} : Accumulator).feeds
          (callStart 0 id name :: parts.map (callFragment 0) ++ [stopAt 0]) =
          List.replicate (parts.length + 1) ({} : Fed) ++ [last] ∧
        last.call = .ok (some content) ∧ content.call? = some call ∧
        call.parsed = .ok (some v.asArguments) := by
  intro hall
  obtain ⟨v, hv, hrefused⟩ : ∃ v, Json.parse (String.join ["[\"x\"]"]) = .ok v ∧
      Arguments.ofInput? v = none := exists_parsed_refused (by decide +kernel)
  obtain ⟨last, content, call, hfeeds, hcall, -⟩ := hall "t1" "add" ["[\"x\"]"] _ hv
  have hcompleted := feeds_call {} (startsCall_callStart 0 "t1" "add")
    (.cons (extendsCall_callFragment 0 "[\"x\"]") .nil) (stopsBlock_stopAt 0)
  rw [Pending.complete_parsed hv, hrefused] at hcompleted
  have hlast := List.append_cancel_left (hfeeds.symm.trans hcompleted)
  rw [(List.cons.inj hlast).1] at hcall
  cases hcall

end Accumulator

end Parley
