/-
What is left of a result that is read back.

A result travels as a list of items, each a text or data.  It is written as one item, data for a
dictionary and a text for anything else, but read as the joined texts of all its items, or as the
list of items where these come to nothing.  So a text that says something comes back, and a
dictionary or the empty text comes back wrapped in the item that it was sent as.  Where items are
mixed, data beside a text that says something is lost.
-/
import Parley.Proofs.Reply

namespace Parley

namespace Wire

/-! ### Items of a result -/

/-- One item of a result. -/
inductive Item where
  | text (s : String)
  | data (v : Document)
  deriving Inhabited

namespace Item

/-- The form in which an item travels: the key that tells is there. -/
def Is : Item → Document → Prop
  | .text s, d => d.get? "text" = some (.str s)
  | .data v, d => d.get? "text" = none ∧ d.get? "json" = some v

/-- The text of an item, if it is one. -/
def text? : Item → Option String
  | .text s => some s
  | .data _ => none

/-- The item that a value is sent as. -/
def sentAs (v : Document) : Item :=
  match v with
  | .obj entries => .data (.obj entries)
  | .str s => .text s
  | v => .text (jsonText v)

theorem is_sentAs (v : Document) : (sentAs v).Is (Block.resultItem v) := by
  cases v with
  | obj entries => exact ⟨rfl, rfl⟩
  | _ => rfl

/-- Whether the data of an item is in a value: the item itself is in a list, its text in a text. -/
def IsIn (item : Item) : Document → Prop
  | .list ds => ∃ d ∈ ds, item.Is d
  | .str s => ∃ t before after, item = .text t ∧ s = before ++ t ++ after
  | _ => False

end Item

/-- The texts among items, joined. -/
def saidBy (items : List Item) : String := String.join (items.filterMap Item.text?)

theorem saidBy_text (s : String) (items : List Item) :
    saidBy (.text s :: items) = s ++ saidBy items :=
  String.join_cons

theorem saidBy_data (v : Document) (items : List Item) :
    saidBy (.data v :: items) = saidBy items :=
  rfl

theorem saidBy_append (items more : List Item) :
    saidBy (items ++ more) = saidBy items ++ saidBy more := by
  unfold saidBy
  rw [List.filterMap_append, String.join_append]

/-- What is kept of a result: its texts, or the items as they came where these say nothing. -/
def kept (items : List Item) (docs : List Document) : Document :=
  if saidBy items = "" then .list docs else .str (saidBy items)

/-! ### Reading -/

theorem joinTexts_items {items : List Item} {docs : List Document}
    (h : List.Forall₂ Item.Is items docs) : joinTexts docs = .ok (saidBy items) := by
  induction h with
  | nil => rfl
  | @cons item d _ _ hd _ ih =>
      cases item with
      | text s =>
          have hget : d.get? "text" = some (.str s) := hd
          obtain ⟨entries, rfl, hentry⟩ := Value.get?_some hget
          have hhas : (Value.obj entries : Document).contains "text" = .ok true := by
            rw [Value.contains_obj, hentry]
            rfl
          rw [joinTexts, hhas, Outcome.ok_bind, if_pos rfl, Value.entry_get? hget,
            Outcome.ok_bind, ih, saidBy_text]
          rfl
      | data v =>
          obtain ⟨hnone, hjson⟩ := hd
          obtain ⟨entries, rfl, -⟩ := Value.get?_some hjson
          have hlacks : (Value.obj entries : Document).contains "text" = .ok false := by
            rw [Value.contains_obj, show Entries.get? entries "text" = none from hnone]
            rfl
          rw [joinTexts, hlacks, Outcome.ok_bind, if_neg Bool.false_ne_true, ih, saidBy_data]

/-- A block that is read as a result with items: the keys that matter are there. -/
structure IsResult (id : String) (items : List Item) (docs : List Document) (b : Document) :
    Prop where
  noText : b.get? "text" = none
  noCall : b.get? "toolUse" = none
  said : ∃ result, b.get? "toolResult" = some result ∧
    result.get? "toolUseId" = some (.str id) ∧ result.get? "content" = some (.list docs)
  items : List.Forall₂ Item.Is items docs

/-- The block that is written for a result holds the one item that its value is sent as. -/
theorem isResult_toolResult (r : Result) :
    IsResult r.id [Item.sentAs r.value] [Block.resultItem r.value] (Block.toolResult r) :=
  ⟨rfl, rfl, ⟨_, rfl, rfl, rfl⟩, .cons (Item.is_sentAs r.value) .nil⟩

section Reading

variable {id : String} {items : List Item} {docs : List Document} {b : Document}

theorem blockKind_result (h : IsResult id items docs b) : blockKind b = .ok .toolResult := by
  obtain ⟨result, hresult, -⟩ := h.said
  obtain ⟨entries, rfl, hx⟩ := Value.get?_some hresult
  have htext : Entries.get? entries "text" = none := h.noText
  have hcall : Entries.get? entries "toolUse" = none := h.noCall
  simp [blockKind, Value.contains_obj, hx, htext, hcall]

/-- A result is read as what is kept of it. -/
theorem readResult_isResult (h : IsResult id items docs b) :
    readResult .null b = .ok ⟨.result { id, value := kept items docs }, b, none⟩ := by
  obtain ⟨result, hresult, hid, hcontent⟩ := h.said
  have hsequence : (Value.list docs : Document).sequence = .ok docs := rfl
  have hvalue : (if (saidBy items == "") = true then Value.list docs else .str (saidBy items)) =
      kept items docs := by
    simp [kept]
  unfold readResult
  rw [Value.entry_get? hresult, Outcome.ok_bind, Value.lookup_get? hcontent, Outcome.ok_bind,
    hsequence, Outcome.ok_bind, joinTexts_items h.items, Outcome.ok_bind, Value.entry_get? hid,
    Outcome.ok_bind, Value.lookup_get? hcontent, Outcome.ok_bind, hvalue]
  show Except.ok (Content.mk (.result ⟨id, none, Given.document (Given.ofDocument _), none⟩)
    (Given.document (Given.ofDocument b)) none) = _
  rw [Given.document_ofDocument, Given.document_ofDocument]

end Reading

/-- What a block of a result is read as. -/
def ReadAs (b : Document) (body : Body) : Prop :=
  ∃ id items docs, IsResult id items docs b ∧ body = .result { id, value := kept items docs }

/-- **Results are read one for one**, each as what is kept of it. -/
theorem contents_results {blocks : List Document} {bodies : List Body}
    (h : List.Forall₂ ReadAs blocks bodies) :
    ∃ cs, contents (.list blocks) = .ok cs ∧ cs.map Content.body = bodies := by
  show ∃ cs, readBlocks .null blocks = .ok cs ∧ _
  induction h with
  | nil => exact ⟨[], rfl, rfl⟩
  | @cons b _ _ _ hb _ ih =>
      obtain ⟨cs, hcs, hbodies⟩ := ih
      obtain ⟨id, items, docs, hb, rfl⟩ := hb
      refine ⟨⟨.result { id, value := kept items docs }, b, none⟩ :: cs, ?_,
        by rw [List.map_cons, hbodies]⟩
      rw [readBlocks, blockKind_result hb, Outcome.ok_bind]
      dsimp only
      rw [readResult_isResult hb, Outcome.ok_bind, hcs]
      rfl

/-! ### Writing and reading again -/

/-- What comes back of a value that is sent as a result. -/
def comesBack (v : Document) : Document := kept [Item.sentAs v] [Block.resultItem v]

/-- Data that can be written out can be written as a result. -/
theorem checkResult_writable {v : Document} (h : v.writable = .ok ()) :
    Block.checkResult v = .ok () := by
  unfold Block.checkResult
  split
  · rfl
  · exact h

/-- A text or a dictionary can be written as a result. -/
theorem checkResult_plain {v : Document} (h : (∃ s, v = .str s) ∨ ∃ entries, v = .obj entries) :
    Block.checkResult v = .ok () := by
  rcases h with ⟨s, rfl⟩ | ⟨entries, rfl⟩ <;> rfl

/-- Results that can be written are written one for one. -/
theorem ofContents_results {cs : List Content} {rs : List Result}
    (h : cs.map Content.body = rs.map Body.result)
    (hrs : ∀ r ∈ rs, Block.checkResult r.value = .ok ()) :
    Block.ofContents cs = .ok (rs.map Block.toolResult) := by
  have hall := forall₂_of_map_eq h
  clear h
  induction hall with
  | nil => rfl
  | @cons c r _ _ hc _ ih =>
      have hblock : Block.ofContent? c = .ok (some (Block.toolResult r)) := by
        unfold Block.ofContent?
        rw [hc]
        dsimp only
        rw [hrs r (by simp)]
        rfl
      rw [Block.ofContents, hblock, Outcome.ok_bind, ih fun r' hr' => hrs r' (by simp [hr'])]
      rfl

/-- **Results that are written and read again are as many, under the same identifiers**, with what
comes back of their values. -/
theorem reread_results {cs : List Content} {rs : List Result}
    (h : cs.map Content.body = rs.map Body.result)
    (hrs : ∀ r ∈ rs, Block.checkResult r.value = .ok ()) :
    ∃ ds, (Block.ofContents cs >>= fun blocks => contents (.list blocks)) = .ok ds ∧
      ds.map Content.body = rs.map fun r => .result { id := r.id, value := comesBack r.value } := by
  rw [ofContents_results h hrs, Outcome.ok_bind]
  refine contents_results ?_
  rw [List.forall₂_map_left_iff, List.forall₂_map_right_iff, List.forall₂_same]
  exact fun r _ => ⟨r.id, _, _, isResult_toolResult r, rfl⟩

/-- A text or a dictionary comes back as it was sent exactly if it is a text that says something. -/
theorem comesBack_eq_iff {v : Document}
    (h : (∃ s, v = .str s) ∨ ∃ entries, v = .obj entries) :
    comesBack v = v ↔ ∃ s, s ≠ "" ∧ v = .str s := by
  unfold comesBack kept
  rcases h with ⟨s, rfl⟩ | ⟨entries, rfl⟩
  · have hsaid : saidBy [Item.sentAs (.str s)] = s := by
      show saidBy [.text s] = s
      rw [saidBy_text]
      exact String.append_empty
    rw [hsaid]
    by_cases hs : s = ""
    · simp [hs]
    · simp [hs]
  · have hsaid : saidBy [Item.sentAs (.obj entries)] = "" := rfl
    simp [hsaid]

/-- The data of every item is kept exactly if the items are all texts, or their texts say nothing. -/
theorem isIn_kept_iff {items : List Item} {docs : List Document}
    (h : List.Forall₂ Item.Is items docs) :
    (∀ item ∈ items, item.IsIn (kept items docs)) ↔
      saidBy items = "" ∨ ∀ item ∈ items, ∃ s, item = .text s := by
  unfold kept
  by_cases hsaid : saidBy items = ""
  · rw [if_pos hsaid]
    refine iff_of_true (fun item hitem => ?_) (.inl hsaid)
    exact exists_mem_of_forall₂ h hitem
  · rw [if_neg hsaid]
    constructor
    · intro hall
      refine .inr fun item hitem => ?_
      obtain ⟨t, _, _, rfl, -⟩ := hall item hitem
      exact ⟨t, rfl⟩
    · rintro (hnone | htexts) item hitem
      · exact absurd hnone hsaid
      · obtain ⟨t, rfl⟩ := htexts item hitem
        obtain ⟨before, after, rfl⟩ := List.append_of_mem hitem
        refine ⟨t, saidBy before, saidBy after, rfl, ?_⟩
        rw [saidBy_append, saidBy_text, String.append_assoc]

/-- **What results that are sent come back as**: a text that says something comes back, and of a
dictionary or the empty text the item that it was sent as.  Of a result with texts and data no item
is lost exactly if there are no data, or the texts say nothing. -/
theorem results_come_back_iff {cs : List Content} {rs : List Result}
    (h : cs.map Content.body = rs.map Body.result)
    (hplain : ∀ r ∈ rs, (∃ s, r.value = .str s) ∨ ∃ entries, r.value = .obj entries)
    {id : String} {items : List Item} {docs : List Document} {b : Document}
    (hb : IsResult id items docs b) :
    (∃ ds, (Block.ofContents cs >>= fun blocks => contents (.list blocks)) = .ok ds ∧
      List.Forall₂ (fun r d => ∃ q, d.body = .result q ∧ q.id = r.id ∧
        q.value = comesBack r.value ∧
        (q.value = r.value ↔ ∃ s, s ≠ "" ∧ r.value = .str s)) rs ds) ∧
    ∃ d q, contents (.list [b]) = .ok [d] ∧ d.body = .result q ∧ q.id = id ∧
      q.value = kept items docs ∧
      ((∀ item ∈ items, item.IsIn q.value) ↔
        saidBy items = "" ∨ ∀ item ∈ items, ∃ s, item = .text s) := by
  constructor
  · obtain ⟨ds, hds, hbodies⟩ := reread_results h fun r hr => checkResult_plain (hplain r hr)
    refine ⟨ds, hds, ?_⟩
    have hall : List.Forall₂ (fun r d =>
        Body.result { id := r.id, value := comesBack r.value } = d.body) rs ds :=
      forall₂_of_map_eq hbodies.symm
    refine ((List.forall₂_and_left rs ds).mpr ⟨hplain, hall⟩).imp ?_
    rintro r d ⟨hr, hd⟩
    exact ⟨_, hd.symm, rfl, rfl, comesBack_eq_iff hr⟩
  · obtain ⟨ds, hds, hbodies⟩ := contents_results (.cons ⟨id, items, docs, hb, rfl⟩ .nil)
    obtain ⟨d, rfl, hd⟩ := List.map_eq_singleton_iff.mp hbodies
    exact ⟨d, _, hds, hd, rfl, rfl, isIn_kept_iff hb.items⟩

/-- A result that holds a text and data. -/
def coldResult : Document :=
  .obj [("toolResult", .obj [("toolUseId", .str "t1"), ("content", .list
    [.obj [("text", .str "Cold")], .obj [("json", .obj [("celsius", .int (-3))])]])])]

theorem isResult_coldResult :
    IsResult "t1" [.text "Cold", .data (.obj [("celsius", .int (-3))])]
      [.obj [("text", .str "Cold")], .obj [("json", .obj [("celsius", .int (-3))])]] coldResult :=
  ⟨rfl, rfl, ⟨_, rfl, rfl, rfl⟩, .cons rfl (.cons ⟨rfl, rfl⟩ .nil)⟩

/-- A text comes back, and of a text beside data not all is kept. -/
theorem plain_text_comes_back :
    (∃ d q, (Block.ofContents [Content.ofResult { id := "t1", value := .str "plain text" }] >>=
        fun blocks => contents (.list blocks)) = .ok [d] ∧ d.body = .result q ∧
      q.id = "t1" ∧ q.value = .str "plain text") ∧
    ∃ d q, contents (.list [coldResult]) = .ok [d] ∧ d.body = .result q ∧
      ¬ ∀ item ∈ [Item.text "Cold", .data (.obj [("celsius", .int (-3))])], item.IsIn q.value := by
  let r : Result := { id := "t1", value := .str "plain text" }
  have hr : [Content.ofResult r].map Content.body = [r].map Body.result := rfl
  obtain ⟨⟨ds, hds, hall⟩, d, q, hd, hq, -, -, hkept⟩ := results_come_back_iff hr
    (fun x hx => .inl ⟨"plain text", by rw [List.mem_singleton.mp hx]⟩) isResult_coldResult
  constructor
  · rw [List.forall₂_cons_left_iff] at hall
    obtain ⟨d, _, ⟨q, hbody, hid, -, hvalue⟩, hnil, rfl⟩ := hall
    obtain rfl := List.forall₂_nil_left_iff.mp hnil
    exact ⟨d, q, hds, hbody, hid, hvalue.mpr ⟨"plain text", by decide, rfl⟩⟩
  · refine ⟨d, q, hd, hq, fun hall => ?_⟩
    rcases hkept.mp hall with hnone | htexts
    · exact absurd hnone (by decide)
    · obtain ⟨s, hs⟩ := htexts (.data (.obj [("celsius", .int (-3))])) (by simp)
      cases hs

/-- A dictionary does not come back, and data beside a text are lost. -/
theorem forecast_does_not_come_back :
    (∃ d q, (Block.ofContents
          [Content.ofResult { id := "t1", value := .obj [("forecast", .str "rain")] }] >>=
        fun blocks => contents (.list blocks)) = .ok [d] ∧ d.body = .result q ∧
      q.value = .list [.obj [("json", .obj [("forecast", .str "rain")])]]) ∧
    ∃ d q, contents (.list [coldResult]) = .ok [d] ∧ d.body = .result q ∧ q.value = .str "Cold" :=
  ⟨⟨_, _, rfl, rfl, rfl⟩, _, _, rfl, rfl, rfl⟩

end Wire

end Parley
