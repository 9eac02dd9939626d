/-
The vectors that a reply holds.

A reply is data of any shape.  What is taken from it is said here apart from the checks that take
it: the items of a vector are taken for numbers one by one, and a vector that is no list is run
through like one.  Embeddings are numbered as they are made, so putting them in the order of their
inputs changes nothing.  A family that embeds one input a request gathers what the replies tell,
one after another, and the tokens are added up on the way.
-/
import Mathlib.Algebra.Ring.Int.Defs
import Parley.Proofs.Value
import Parley.Proofs.Outcome
import Parley.Embedding.Model

namespace Parley

/-- The numbers that items are taken for. -/
def Numbers (items : List Document) (xs : List Float) : Prop :=
  List.Forall₂ (fun v x => Check.float v = .ok x) items xs

/-- The numbers that a value runs through. -/
def RunsThrough (v : Document) (xs : List Float) : Prop :=
  ∃ items, v.sequence = .ok items ∧ Numbers items xs

theorem Check.float_ofDocument (v : Document) : float (Given.ofDocument v) = float v := by
  cases v <;> rfl

theorem Value.bindItems_eq_map {α β : Type} (f : α → Value β) (items : List (Value α)) :
    bindItems f items = items.map (bind f) := by
  induction items with
  | nil => rfl
  | cons v rest ih => rw [bindItems, ih, List.map_cons]

/-! ### Faults of reaching into a reply -/

namespace Value

theorem lookup_ok {v default w : Document} {key : String} :
    v.lookup key default = .ok w ↔
      ∃ entries, v = .obj entries ∧ (Entries.get? entries key).getD default = w := by
  cases v with
  | obj entries => simp [lookup]
  | _ => simp [lookup]

theorem lookup_error {v default : Document} {key : String} {f : Fault}
    (h : v.lookup key default = .error f) : f.stage? = none := by
  cases v with
  | obj entries => cases h
  | _ =>
      rw [← Except.error.inj h]
      rfl

theorem sequence_error {v : Document} {f : Fault} (h : v.sequence = .error f) :
    f.stage? = none := by
  unfold sequence at h
  split at h
  case h_7 =>
    rw [← Except.error.inj h]
    rfl
  all_goals cases h

theorem plus_error {a b : Document} {f : Fault} (h : a.plus b = .error f) : f.stage? = none := by
  unfold plus at h
  dsimp only at h
  split at h
  case h_6 =>
    split at h
    · split at h <;> cases h
      rfl
    · cases h
      rfl
  case h_7 =>
    split at h
    · split at h <;> cases h
      rfl
    · cases h
      rfl
  case h_8 =>
    split at h <;> cases h
    rfl
  all_goals cases h

end Value

/-! ### Embeddings in their order -/

namespace Embedding

variable {items : List Document} {i : Nat} {e : Embedding} {es : List Embedding}

theorem ofItems_eq (items : List Document) (i : Nat) :
    ofItems items i =
      (Checked.ap (((Checked.items Check.float 0 (items.map Given.ofDocument)).named "vector").map
        Embedding.mk) (.ok (i : Int))).orInvalid "Embedding" := by
  have hitems : Given.ofDocument (.list items) = .list (items.map Given.ofDocument) := by
    show Value.list (Value.bindItems _ items) = _
    rw [Value.bindItems_eq_map]
    rfl
  unfold ofItems
  rw [hitems]
  rfl

/-- An embedding is made of items exactly when they are taken for numbers. -/
theorem ofItems_ok : ofItems items i = .ok e ↔ ∃ xs, Numbers items xs ∧ e = ⟨xs, i⟩ := by
  rw [ofItems_eq, Checked.orInvalid_ok, Checked.ap_ok]
  constructor
  · rintro ⟨g, place, hg, hplace, rfl⟩
    obtain ⟨xs, hxs, rfl⟩ := Outcome.map_ok.mp hg
    obtain rfl := Except.ok.inj hplace
    have hall := Checked.items_ok.mp (Checked.named_ok.mp hxs)
    simp only [List.forall₂_map_left_iff, Check.float_ofDocument] at hall
    exact ⟨xs, hall, rfl⟩
  · rintro ⟨xs, hxs, rfl⟩
    have hall : List.Forall₂ (fun v x => Check.float v = .ok x) (items.map Given.ofDocument)
        xs := by
      simp only [List.forall₂_map_left_iff, Check.float_ofDocument]
      exact hxs
    exact ⟨_, _, Outcome.map_ok.mpr ⟨xs, Checked.named_ok.mpr (Checked.items_ok.mpr hall), rfl⟩,
      rfl, rfl⟩

theorem ofItems_error {f : Fault} (h : ofItems items i = .error f) : f.stage? = none := by
  rw [ofItems_eq] at h
  obtain ⟨issues, rfl⟩ := Checked.orInvalid_error h
  rfl

/-- Embeddings whose places are counted up from `i`. -/
def NumberedFrom (i : Nat) (es : List Embedding) : Prop :=
  es.map index = (List.range' i es.length).map Int.ofNat

theorem numberedFrom_cons : NumberedFrom i (e :: es) ↔ e.index = i ∧ NumberedFrom (i + 1) es := by
  unfold NumberedFrom
  rw [List.map_cons, List.length_cons, List.range'_succ, List.map_cons, List.cons.injEq]
  rfl

theorem NumberedFrom.concat {xs : List Float} (h : NumberedFrom 0 es) :
    NumberedFrom 0 (es ++ [⟨xs, es.length⟩]) := by
  unfold NumberedFrom at h ⊢
  rw [List.map_append, h, List.length_append, List.length_singleton, List.range'_concat,
    List.map_append]
  simp

theorem NumberedFrom.index_eq (h : NumberedFrom 0 es) {k : Nat} (hk : k < es.length) :
    es[k].index = k := by
  have hplace : (es.map index)[k]? = some (k : Int) := by
    rw [h, List.getElem?_map, List.getElem?_range' hk]
    simp
  rw [List.getElem?_map, List.getElem?_eq_getElem hk] at hplace
  exact Option.some.inj hplace

/-- Embeddings that are numbered stand in their order already. -/
theorem NumberedFrom.ordered_eq (h : NumberedFrom i es) : ordered es = es.map vector := by
  have hrange : (es.map index).Pairwise (· ≤ ·) := by
    rw [h, List.pairwise_map]
    exact (List.pairwise_lt_range' 1).imp fun hlt => Int.ofNat_le.mpr (Nat.le_of_lt hlt)
  have hsorted : es.Pairwise fun a b => decide (a.index ≤ b.index) = true := by
    rw [List.pairwise_map] at hrange
    exact hrange.imp fun hle => decide_eq_true hle
  unfold ordered
  rw [List.mergeSort_of_pairwise hsorted]

end Embedding

namespace EmbeddingModel

/-! ### All vectors in one reply -/

/-- The vectors that a reply holds: a list of them, or the list under the name of a type. -/
def Holds (entries : Properties) (vectors : List Document) : Prop :=
  Entries.get? entries "embeddings" = some (.list vectors) ∨
    ∃ typed, Entries.get? entries "embeddings" = some (.obj typed) ∧
      Entries.get? typed "float" = some (.list vectors)

theorem Holds.unique {entries : Properties} {vectors others : List Document}
    (h : Holds entries vectors) (h' : Holds entries others) : vectors = others := by
  rcases h with h | ⟨typed, h, hfloat⟩ <;> rcases h' with h' | ⟨typed', h', hfloat'⟩ <;>
    cases h.symm.trans h'
  · rfl
  · cases hfloat.symm.trans hfloat'
    rfl

/-- A dictionary is searched for vectors, and those that it holds are found. -/
theorem vectorsOf_obj (entries : Properties) :
    ∃ found, vectorsOf (.obj entries) = .ok found ∧
      ∀ vectors, found = some vectors ↔ Holds entries vectors := by
  unfold vectorsOf Holds
  rw [show Value.lookup (.obj entries) "embeddings" .null =
    .ok ((Entries.get? entries "embeddings").getD .null) from rfl, Outcome.ok_bind]
  cases hentry : Entries.get? entries "embeddings" with
  | none => exact ⟨none, rfl, by simp⟩
  | some v =>
      cases v with
      | list vectors => exact ⟨some vectors, rfl, by simp⟩
      | obj typed =>
          cases htyped : Entries.get? typed "float" with
          | none => exact ⟨none, by simp [htyped], by simp [htyped]⟩
          | some w => cases w <;> simp [htyped]
      | _ => exact ⟨none, rfl, by simp⟩

theorem embeddingsFrom_cons {i : Nat} {v : Document} {rest : List Document} {es : List Embedding} :
    embeddingsFrom i (v :: rest) = .ok es ↔
      ∃ xs more, RunsThrough v xs ∧ embeddingsFrom (i + 1) rest = .ok more ∧
        es = ⟨xs, i⟩ :: more := by
  constructor
  · intro h
    obtain ⟨items, hitems, h⟩ := Outcome.bind_ok.mp h
    obtain ⟨e, he, h⟩ := Outcome.bind_ok.mp h
    obtain ⟨more, hmore, h⟩ := Outcome.bind_ok.mp h
    obtain ⟨xs, hxs, rfl⟩ := Embedding.ofItems_ok.mp he
    exact ⟨xs, more, ⟨items, hitems, hxs⟩, hmore, (Except.ok.inj h).symm⟩
  · rintro ⟨xs, more, ⟨items, hitems, hxs⟩, hmore, rfl⟩
    unfold embeddingsFrom
    rw [hitems, Outcome.ok_bind, Embedding.ofItems_ok.mpr ⟨xs, hxs, rfl⟩, Outcome.ok_bind, hmore]
    rfl

/-- Vectors become embeddings one by one, and are numbered on the way. -/
theorem embeddingsFrom_ok {i : Nat} {vectors : List Document} {es : List Embedding} :
    embeddingsFrom i vectors = .ok es ↔
      List.Forall₂ (fun v e => RunsThrough v e.vector) vectors es ∧
        Embedding.NumberedFrom i es := by
  induction vectors generalizing i es with
  | nil =>
      rw [List.forall₂_nil_left_iff]
      constructor
      · intro h
        obtain rfl := Except.ok.inj h
        exact ⟨rfl, rfl⟩
      · rintro ⟨rfl, -⟩
        rfl
  | cons v rest ih =>
      rw [embeddingsFrom_cons, List.forall₂_cons_left_iff]
      constructor
      · rintro ⟨xs, more, hxs, hmore, rfl⟩
        obtain ⟨hall, hnumbered⟩ := ih.mp hmore
        exact ⟨⟨_, more, hxs, hall, rfl⟩, Embedding.numberedFrom_cons.mpr ⟨rfl, hnumbered⟩⟩
      · rintro ⟨⟨⟨xs, place⟩, more, hxs, hall, rfl⟩, hnumbered⟩
        obtain ⟨rfl, hrest⟩ := Embedding.numberedFrom_cons.mp hnumbered
        exact ⟨xs, more, hxs, ih.mpr ⟨hall, hrest⟩, rfl⟩

theorem embeddingsFrom_error {i : Nat} {vectors : List Document} {f : Fault}
    (h : embeddingsFrom i vectors = .error f) : f.stage? = none := by
  induction vectors generalizing i with
  | nil => cases h
  | cons v rest ih =>
      rcases Outcome.bind_error.mp h with hitems | ⟨items, -, h⟩
      · exact Value.sequence_error hitems
      · rcases Outcome.bind_error.mp h with he | ⟨e, -, h⟩
        · exact Embedding.ofItems_error he
        · rcases Outcome.bind_error.mp h with hmore | ⟨more, -, h⟩
          · exact ih hmore
          · cases h

theorem readJoint_of_holds (id : String) {entries : Properties} {vectors : List Document}
    (h : Holds entries vectors) :
    readJoint id vectors.length (.obj entries) = embeddingsFrom 0 vectors := by
  obtain ⟨found, hfound, hholds⟩ := vectorsOf_obj entries
  unfold readJoint
  rw [hfound, Outcome.ok_bind, (hholds vectors).mpr h]
  exact if_pos rfl

theorem readJoint_of_lacks (id : String) {n : Nat} {entries : Properties}
    (h : ∀ vectors, Holds entries vectors → vectors.length ≠ n) :
    readJoint id n (.obj entries) = .error (unexpected "Cohere" id) := by
  obtain ⟨found, hfound, hholds⟩ := vectorsOf_obj entries
  unfold readJoint
  rw [hfound, Outcome.ok_bind]
  cases found with
  | none => rfl
  | some vectors => exact if_neg (h vectors ((hholds vectors).mp rfl))

/-- A reply is read exactly when it holds a vector for each of so many inputs. -/
theorem readJoint_ok {id : String} {n : Nat} {reply : Document} {es : List Embedding} :
    readJoint id n reply = .ok es ↔
      ∃ entries vectors, reply = .obj entries ∧ Holds entries vectors ∧ vectors.length = n ∧
        List.Forall₂ (fun v e => RunsThrough v e.vector) vectors es ∧
          Embedding.NumberedFrom 0 es := by
  constructor
  · intro h
    cases reply with
    | obj entries =>
        by_cases hfound : ∃ vectors, Holds entries vectors ∧ vectors.length = n
        · obtain ⟨vectors, hholds, rfl⟩ := hfound
          rw [readJoint_of_holds id hholds] at h
          exact ⟨entries, vectors, rfl, hholds, rfl, embeddingsFrom_ok.mp h⟩
        · push Not at hfound
          rw [readJoint_of_lacks id hfound] at h
          cases h
    | _ => cases h
  · rintro ⟨entries, vectors, rfl, hholds, rfl, hall⟩
    rw [readJoint_of_holds id hholds]
    exact embeddingsFrom_ok.mpr hall

/-! ### One vector a reply -/

/-- What a reply for one input tells: its vector, and how many tokens the input took. -/
inductive Tells : Document → List Float → Document → Prop
  | mk {entries : Properties} {items : List Document} {xs : List Float}
      (vector : Entries.get? entries "embedding" = some (.list items))
      (numbers : Numbers items xs) :
      Tells (.obj entries) xs ((Entries.get? entries "inputTextTokenCount").getD (.int 0))

/-- A reply that can be searched for a vector and holds none. -/
def Lacks (reply : Document) : Prop :=
  ∃ entries, reply = .obj entries ∧
    ∀ items, Entries.get? entries "embedding" ≠ some (.list items)

namespace Progress

variable {id : String} {p q : Progress} {reply : Document}

/-- What has been embedded once a reply tells of one more input. -/
def also (p : Progress) (reply : Document) (xs : List Float) (tokens : Document) : Progress :=
  ⟨p.embeddings ++ [⟨xs, p.embeddings.length⟩], tokens, p.raw ++ [reply]⟩

theorem add_obj (id : String) (p : Progress) (entries : Properties) :
    p.add id (.obj entries) =
      match Entries.get? entries "embedding" with
      | some (.list items) => do
        let e ← Embedding.ofItems items p.embeddings.length
        let tokens ← p.tokens.plus ((Entries.get? entries "inputTextTokenCount").getD (.int 0))
        return ⟨p.embeddings ++ [e], tokens, p.raw ++ [.obj entries]⟩
      | _ => .error (unexpected "Titan" id) := by
  unfold add
  rw [Value.lookup_ok.mpr ⟨entries, rfl, rfl⟩, Outcome.ok_bind]
  cases Entries.get? entries "embedding" with
  | none => rfl
  | some v => cases v <;> rfl

/-- A reply is added exactly when it tells of a vector and of a count that can be added. -/
theorem add_ok :
    p.add id reply = .ok q ↔
      ∃ xs count tokens, Tells reply xs count ∧ p.tokens.plus count = .ok tokens ∧
        q = p.also reply xs tokens := by
  constructor
  · intro h
    obtain ⟨_, hfound, -⟩ := Outcome.bind_ok.mp h
    obtain ⟨entries, rfl, -⟩ := Value.lookup_ok.mp hfound
    rw [add_obj] at h
    split at h
    case h_1 items hitems =>
      obtain ⟨e, he, h⟩ := Outcome.bind_ok.mp h
      obtain ⟨tokens, htokens, h⟩ := Outcome.bind_ok.mp h
      obtain ⟨xs, hxs, rfl⟩ := Embedding.ofItems_ok.mp he
      exact ⟨xs, _, tokens, .mk hitems hxs, htokens, (Except.ok.inj h).symm⟩
    case h_2 => cases h
  · rintro ⟨xs, count, tokens, ⟨hitems, hxs⟩, htokens, rfl⟩
    rw [add_obj, hitems]
    dsimp only
    rw [Embedding.ofItems_ok.mpr ⟨xs, hxs, rfl⟩, Outcome.ok_bind, htokens]
    rfl

theorem add_lacks (h : Lacks reply) : p.add id reply = .error (unexpected "Titan" id) := by
  obtain ⟨entries, rfl, hnone⟩ := h
  rw [add_obj]
  split
  case h_1 items hitems => exact absurd hitems (hnone items)
  case h_2 => rfl

/-- A reply that is not added lacks its vector, or it does not hold what it should. -/
theorem add_cases {f : Fault} (h : p.add id reply = .error f) :
    Lacks reply ∨ f.stage? = none := by
  cases hreply : reply.lookup "embedding" .null with
  | error g =>
      unfold add at h
      rw [hreply] at h
      obtain rfl := Except.error.inj h
      exact Or.inr (Value.lookup_error hreply)
  | ok found =>
      obtain ⟨entries, rfl, -⟩ := Value.lookup_ok.mp hreply
      rw [add_obj] at h
      split at h
      case h_1 items hitems =>
        refine Or.inr ?_
        rcases Outcome.bind_error.mp h with he | ⟨e, -, h⟩
        · exact Embedding.ofItems_error he
        · rcases Outcome.bind_error.mp h with htokens | ⟨tokens, -, h⟩
          · exact Value.plus_error htokens
          · cases h
      case h_2 hnone => exact Or.inl ⟨entries, rfl, hnone⟩

end Progress

/-! ### What all replies tell -/

/-- What has been embedded once replies tell of one more input each. -/
structure Gathered (p : Progress) (replies : List Document) (told : List (List Float × Document))
    (q : Progress) : Prop where
  tells : List.Forall₂ (fun reply x => Tells reply x.1 x.2) replies told
  vectors : q.embeddings.map Embedding.vector =
    p.embeddings.map Embedding.vector ++ told.map Prod.fst
  tokens : (told.map Prod.snd).foldlM Value.plus p.tokens = .ok q.tokens
  raw : q.raw = p.raw ++ replies
  numbered : Embedding.NumberedFrom 0 p.embeddings → Embedding.NumberedFrom 0 q.embeddings

namespace Gathered

variable {id : String} {p p' q : Progress} {reply : Document} {replies : List Document}
  {told : List (List Float × Document)}

theorem refl (p : Progress) : Gathered p [] [] p := ⟨.nil, by simp, rfl, by simp, fun h => h⟩

theorem cons {xs : List Float} {count tokens : Document} (hreply : Tells reply xs count)
    (htokens : p.tokens.plus count = .ok tokens)
    (h : Gathered (p.also reply xs tokens) replies told q) :
    Gathered p (reply :: replies) ((xs, count) :: told) q := by
  refine ⟨.cons hreply h.tells, ?_, ?_, ?_, fun hp => h.numbered hp.concat⟩
  · rw [h.vectors]
    simp [Progress.also]
  · rw [List.map_cons, List.foldlM_cons, htokens, Outcome.ok_bind]
    exact h.tokens
  · rw [h.raw]
    simp [Progress.also]

end Gathered

/-- A whole number or a double. -/
def IsNumber (v : Document) : Prop :=
  (∃ n, v = .int n) ∨ ∃ x, v = .float x

/-- What is added to a number makes a number, or cannot be added. -/
theorem IsNumber.plus {a b c : Document} (ha : IsNumber a) (h : a.plus b = .ok c) : IsNumber c := by
  rcases ha with ⟨n, rfl⟩ | ⟨x, rfl⟩
  · cases b with
    | int m => exact Or.inl ⟨n + m, (Except.ok.inj h).symm⟩
    | bool b => exact Or.inl ⟨_, (Except.ok.inj h).symm⟩
    | float y =>
        unfold Value.plus at h
        dsimp only at h
        split at h
        · exact Or.inr ⟨_, (Except.ok.inj h).symm⟩
        · cases h
    | _ => cases h
  · cases b with
    | float y => exact Or.inr ⟨_, (Except.ok.inj h).symm⟩
    | int m =>
        unfold Value.plus at h
        dsimp only at h
        split at h
        · exact Or.inr ⟨_, (Except.ok.inj h).symm⟩
        · cases h
    | bool b =>
        unfold Value.plus at h
        dsimp only at h
        split at h
        · exact Or.inr ⟨_, (Except.ok.inj h).symm⟩
        · cases h
    | _ => cases h

theorem IsNumber.sum {a total : Document} {counts : List Document} (ha : IsNumber a)
    (h : counts.foldlM Value.plus a = .ok total) : IsNumber total := by
  induction counts generalizing a with
  | nil =>
      obtain rfl := Except.ok.inj h
      exact ha
  | cons count rest ih =>
      rw [List.foldlM_cons] at h
      obtain ⟨b, hb, h⟩ := Outcome.bind_ok.mp h
      exact ih (ha.plus hb) h

/-- Whole numbers add up to their sum. -/
theorem sum_whole (n : Int) (ns : List Int) :
    (ns.map Value.int).foldlM Value.plus (.int n : Document) = .ok (.int (n + ns.sum)) := by
  induction ns generalizing n with
  | nil => simp
  | cons m rest ih =>
      have hplus : (Value.int n : Document).plus (.int m) = .ok (.int (n + m)) := rfl
      rw [List.map_cons, List.foldlM_cons, hplus, Outcome.ok_bind, ih, List.sum_cons, Int.add_assoc]

theorem optional_number {tokens : Document} (h : IsNumber tokens) :
    Check.optional Check.int (Given.ofDocument tokens) = (Check.int tokens).map some := by
  rcases h with ⟨n, rfl⟩ | ⟨x, rfl⟩ <;> rfl

/-- Counts are made of a number that is whole. -/
theorem countsOf_ok {tokens : Document} {u : Usage} (h : IsNumber tokens) :
    countsOf tokens = .ok u ↔ ∃ n, Check.int tokens = .ok n ∧ u = ⟨some n, none, some n⟩ := by
  have hfields : Usage.ofFields [("input_token_count", Given.ofDocument tokens),
      ("total_token_count", Given.ofDocument tokens)] =
        Checked.ap (Checked.ap
          (((Check.optional Check.int (Given.ofDocument tokens)).named "input_token_count").map
            Usage.mk) (.ok none))
          ((Check.optional Check.int (Given.ofDocument tokens)).named "total_token_count") := rfl
  unfold countsOf
  rw [Checked.orInvalid_ok, hfields, optional_number h]
  cases Check.int tokens with
  | ok n =>
      constructor
      · intro hu
        exact ⟨n, rfl, (Except.ok.inj hu).symm⟩
      · rintro ⟨n', hn, rfl⟩
        obtain rfl := Except.ok.inj hn
        rfl
  | error issues =>
      constructor
      · intro hu
        cases hu
      · rintro ⟨n, hn, -⟩
        cases hn

theorem countsOf_error {tokens : Document} {f : Fault} (h : countsOf tokens = .error f) :
    f.stage? = none := by
  obtain ⟨issues, rfl⟩ := Checked.orInvalid_error h
  rfl

end EmbeddingModel

end Parley
