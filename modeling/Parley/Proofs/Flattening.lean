/-
Conversations told without tools.

Flattening tells block by block what a message holds about tools.  `Retold` says what becomes of a
block: one about no tool stays, a call is told by its name and its input, and a result by all of its
items in their order.  Every block that is written for a content is of one of these forms, and what
it becomes is about no tool.  So a conversation is flattened message by message and block by block,
and flattening it once more changes nothing.

A call's input and a result's data are told as JSON text, and a number of more digits than the limit
has none.  So a conversation can be flattened exactly if no such number is in what would have to be
told, `IsTellable`.
-/
import Parley.Proofs.Printer
import Parley.Proofs.Request
import Parley.Proofs.Results

namespace Parley

/-- The data in the block of a content: the input of a call, and a result that is a dictionary. -/
def Content.held? (c : Content) : Option Document :=
  match c.body with
  | .call call => (Block.inputOf call).toOption.map Value.obj
  | .result r => r.value.asEntries?.map Value.obj
  | _ => none

/-- Whether the data in the block of a content has a JSON text, as a JSON value does: no number in
it is too long to be written. -/
def Content.IsTellable (c : Content) : Prop :=
  ∀ v, c.held? = some v → v.holdsTooLong = false

namespace Content

variable {c : Content} {v : Document}

theorem isTellable_of_none (h : c.held? = none) : c.IsTellable := by
  intro v hv
  rw [h] at hv
  cases hv

theorem isTellable_iff (h : c.held? = some v) : c.IsTellable ↔ v.holdsTooLong = false := by
  unfold IsTellable
  rw [h]
  simp

/-- Only what is about a tool may be in the way of telling. -/
theorem isAboutTool_of_not_isTellable (h : ¬ c.IsTellable) : c.isAboutTool = true := by
  by_contra hplain
  refine h (isTellable_of_none ?_)
  unfold isAboutTool at hplain
  unfold held?
  cases hc : c.body <;> simp_all

end Content

/-- The fault of telling a number that is too long. -/
def numberTooLong : Fault := .badValue Number.tooLong

namespace Wire

/-- What is told of an item of a result. -/
inductive Item.Told : Item → String → Prop
  | text (s : String) : Told (.text s) s
  | data {v : Document} {s : String} (h : jsonOf v = .ok s) : Told (.data v) s

/-- What a block becomes that is told without tools. -/
inductive Retold : Document → Document → Prop
  | kept {entries : Properties} (h : Block.isAboutTool (.obj entries) = false) :
      Retold (.obj entries) (.obj entries)
  | call {b use input : Document} {name text : String} (huse : b.get? "toolUse" = some use)
      (hname : use.get? "name" = some (.str name)) (hinput : use.get? "input" = some input)
      (htext : jsonOf input = .ok text) :
      Retold b (Block.text ("Called tool " ++ name ++ " with input " ++ text))
  | result {b result : Document} {items : List Item} {docs : List Document} {texts : List String}
      (hcall : b.get? "toolUse" = none) (hresult : b.get? "toolResult" = some result)
      (hcontent : result.get? "content" = some (.list docs))
      (hitems : List.Forall₂ Item.Is items docs) (htexts : List.Forall₂ Item.Told items texts) :
      Retold b (Block.text ("Tool result: " ++ " ".intercalate texts))

/-- What a message becomes that is told without tools: its role stays. -/
def RetoldMessage (d d' : Document) : Prop :=
  ∃ role blocks blocks', d = message role blocks ∧ d' = message role blocks' ∧
    List.Forall₂ Retold blocks blocks'

/-! ### Blocks -/

/-- The data of an item is told as JSON text. -/
theorem itemText_data {v d : Document} (h : (Item.data v).Is d) :
    itemText d = (jsonOf v).map Value.str := by
  obtain ⟨hnone, hjson⟩ := h
  obtain ⟨entries, rfl, -⟩ := Value.get?_some hjson
  unfold itemText
  rw [Value.contains_obj, show Entries.get? entries "text" = none from hnone, Outcome.ok_bind,
    Option.isSome_none, if_neg Bool.false_ne_true, Value.lookup_get? hjson, Outcome.ok_bind]
  cases jsonOf v <;> rfl

theorem itemText_is {item : Item} {d : Document} {s : String} (h : item.Is d)
    (htold : item.Told s) : itemText d = .ok (.str s) := by
  cases htold with
  | text s =>
      have hget : d.get? "text" = some (.str s) := h
      obtain ⟨entries, rfl, hentry⟩ := Value.get?_some hget
      unfold itemText
      rw [Value.contains_obj, hentry, Outcome.ok_bind]
      exact Value.entry_get? hget
  | data htext =>
      rw [itemText_data h, htext]
      rfl

theorem itemTexts_is {items : List Item} {docs : List Document} {texts : List String}
    (h : List.Forall₂ Item.Is items docs) (htold : List.Forall₂ Item.Told items texts) :
    docs.mapM itemText = .ok (texts.map Value.str) := by
  rw [Outcome.mapM_ok, List.forall₂_map_right_iff]
  exact forall₂_comp h.flip htold fun _ _ _ hd hs => itemText_is hd hs

theorem expectTexts_str (texts : List String) :
    (texts.map fun s => (.str s : Document)).mapM Value.expectText = .ok texts := by
  rw [Outcome.mapM_ok, List.forall₂_map_left_iff, List.forall₂_same]
  exact fun _ _ => rfl

section Told

variable {b use input result : Document} {name : String} {docs : List Document}

/-- The block of a call is told by its name and its input. -/
theorem flattenBlock_call (huse : b.get? "toolUse" = some use)
    (hname : use.get? "name" = some (.str name)) (hinput : use.get? "input" = some input) :
    flattenBlock b = (jsonOf input).map fun text =>
      Block.text ("Called tool " ++ name ++ " with input " ++ text) := by
  unfold flattenBlock calledText
  rw [Value.lookup_get? huse, Outcome.ok_bind, if_pos (Value.isSet_of_get? hname),
    Value.lookup_get? hinput, Outcome.ok_bind, Value.lookup_get? hname, Outcome.ok_bind]
  cases jsonOf input <;> rfl

/-- The block of a result is told item by item. -/
theorem flattenBlock_result (hcall : b.get? "toolUse" = none)
    (hresult : b.get? "toolResult" = some result)
    (hcontent : result.get? "content" = some (.list docs)) :
    flattenBlock b = docs.mapM itemText >>= fun parts =>
      parts.mapM Value.expectText >>= fun texts =>
        .ok (Block.text ("Tool result: " ++ " ".intercalate texts)) := by
  obtain ⟨entries, rfl, -⟩ := Value.get?_some hresult
  have hno : (Value.obj entries : Document).lookup "toolUse" .null = .ok .null := by
    rw [Value.lookup, show Entries.get? entries "toolUse" = none from hcall]
    rfl
  unfold flattenBlock resultText
  rw [hno, Outcome.ok_bind, if_neg (by decide), Value.lookup_get? hresult, Outcome.ok_bind,
    if_pos (Value.isSet_of_get? hcontent), Value.lookup_get? hcontent, Outcome.ok_bind,
    Value.sequence, Outcome.ok_bind]
  rfl

end Told

/-- A block becomes what it is told as. -/
theorem flattenBlock_retold {b b' : Document} (h : Retold b b') : flattenBlock b = .ok b' := by
  cases h with
  | kept h => exact flattenBlock_other h
  | call huse hname hinput htext =>
      rw [flattenBlock_call huse hname hinput, htext]
      rfl
  | result hcall hresult hcontent hitems htexts =>
      rw [flattenBlock_result hcall hresult hcontent, itemTexts_is hitems htexts, Outcome.ok_bind,
        expectTexts_str]
      rfl

/-- What is told is about no tool, so it stays when it is told again. -/
theorem Retold.again {b b' : Document} (h : Retold b b') :
    Block.isAboutTool b' = false ∧ Retold b' b' := by
  cases h with
  | kept h => exact ⟨h, .kept h⟩
  | call _ _ _ _ => exact ⟨Block.isAboutTool_text _, .kept (Block.isAboutTool_text _)⟩
  | result _ _ _ _ _ => exact ⟨Block.isAboutTool_text _, .kept (Block.isAboutTool_text _)⟩

/-- Data has a JSON text, unless a number in it is too long. -/
theorem jsonOf_cases (v : Document) :
    (v.holdsTooLong = false ∧ ∃ s, jsonOf v = .ok s) ∨
      v.holdsTooLong = true ∧ jsonOf v = .error numberTooLong := by
  rw [jsonOf_eq]
  unfold Value.writable
  cases v.holdsTooLong
  · exact .inl ⟨rfl, _, rfl⟩
  · exact .inr ⟨rfl, rfl⟩

/-- **A block that is written for a content can be told without tools**, unless it holds a number
that is too long. -/
theorem flattenBlock_cases {c : Content} {b : Document} (h : Block.ofContent? c = .ok (some b)) :
    (c.IsTellable ∧ ∃ b', Retold b b') ∨
      ¬ c.IsTellable ∧ flattenBlock b = .error numberTooLong := by
  unfold Block.ofContent? at h
  cases hc : c.body with
  | text s =>
      rw [hc] at h
      obtain rfl := Option.some.inj (Except.ok.inj h)
      have hheld : c.held? = none := by rw [Content.held?, hc]
      exact .inl ⟨Content.isTellable_of_none hheld, _, .kept (Block.isAboutTool_text s)⟩
  | data d =>
      simp only [hc] at h
      split at h
      · obtain ⟨bytes, -, hb⟩ := Outcome.map_ok.mp h
        obtain rfl := Option.some.inj hb
        have hheld : c.held? = none := by rw [Content.held?, hc]
        exact .inl ⟨Content.isTellable_of_none hheld, _, .kept (Block.isAboutTool_image _ _)⟩
      · cases h
  | call call =>
      rw [hc] at h
      obtain ⟨input, hinput, hb⟩ := Outcome.map_ok.mp h
      obtain rfl := Option.some.inj hb
      have hheld : c.held? = some (.obj input) := by
        rw [Content.held?, hc]
        dsimp only
        rw [hinput]
        rfl
      rw [Content.isTellable_iff hheld]
      rcases jsonOf_cases (.obj input) with ⟨hshort, s, hs⟩ | ⟨hlong, hs⟩
      · exact .inl ⟨hshort, _, .call rfl rfl rfl hs⟩
      · refine .inr ⟨by simp [hlong], ?_⟩
        rw [flattenBlock_call rfl rfl rfl, hs]
        rfl
  | result r =>
      rw [hc] at h
      obtain ⟨-, -, hb⟩ := Outcome.map_ok.mp h
      obtain rfl := Option.some.inj hb
      obtain ⟨id, name, value, fault⟩ := r
      have hheld : c.held? = value.asEntries?.map Value.obj := by rw [Content.held?, hc]
      have hitems := (isResult_toolResult ⟨id, name, value, fault⟩).items
      cases value with
      | obj entries =>
          rw [Content.isTellable_iff hheld]
          rcases jsonOf_cases (.obj entries) with ⟨hshort, s, hs⟩ | ⟨hlong, hs⟩
          · exact .inl ⟨hshort, _, .result rfl rfl rfl hitems (.cons (.data hs) .nil)⟩
          · refine .inr ⟨by simp [hlong], ?_⟩
            rw [flattenBlock_result rfl rfl rfl, Outcome.mapM_cons,
              itemText_data (v := .obj entries) ⟨rfl, rfl⟩, hs]
            rfl
      | _ =>
          exact .inl ⟨Content.isTellable_of_none hheld, _,
            .result rfl rfl rfl hitems (.cons (.text _) .nil)⟩
  | usage u =>
      rw [hc] at h
      cases h

/-! ### Messages -/

theorem flattenMessage_retold {d d' : Document} (h : RetoldMessage d d') :
    flattenMessage d = .ok d' := by
  obtain ⟨role, blocks, blocks', rfl, rfl, hblocks⟩ := h
  have hflat : blocks.mapM flattenBlock = .ok blocks' :=
    Outcome.mapM_ok.mpr (hblocks.imp fun _ _ => flattenBlock_retold)
  simp [flattenMessage, message, Value.entry, Entries.get?_cons, Value.sequence, hflat]

theorem flatten_retold {ds ds' : List Document} (h : List.Forall₂ RetoldMessage ds ds') :
    flatten ds = .ok ds' :=
  Outcome.mapM_ok.mpr (h.imp fun _ _ => flattenMessage_retold)

/-- A message that was told is about no tool, so it stays when it is told again. -/
theorem RetoldMessage.again {d d' : Document} (h : RetoldMessage d d') :
    (∀ b ∈ blocksIn d', Block.isAboutTool b = false) ∧ RetoldMessage d' d' := by
  obtain ⟨role, blocks, blocks', rfl, rfl, hblocks⟩ := h
  have hagain : ∀ b' ∈ blocks', Block.isAboutTool b' = false ∧ Retold b' b' := by
    intro b' hb'
    obtain ⟨b, -, hb⟩ := exists_mem_of_forall₂ hblocks.flip hb'
    exact hb.again
  refine ⟨fun b hb => ?_, role, blocks', blocks', rfl, rfl, ?_⟩
  · rw [blocksIn_message] at hb
    exact (hagain b hb).1
  · rw [List.forall₂_same]
    exact fun b hb => (hagain b hb).2

/-- A message that is written can be told without tools, unless it holds a number that is too
long. -/
theorem flattenMessage_cases {m : Message} {d : Document} (h : IsMessageOf m d) :
    ((∀ x ∈ m.contents, x.IsTellable) ∧ ∃ d', RetoldMessage d d') ∨
      (¬ ∀ x ∈ m.contents, x.IsTellable) ∧ flattenMessage d = .error numberTooLong := by
  obtain ⟨blocks, hblocks, rfl⟩ := h
  by_cases htell : ∀ x ∈ m.contents, x.IsTellable
  · obtain ⟨blocks', hretold⟩ := exists_forall₂ (R := fun b' b => Retold b b') fun b hb => by
      obtain ⟨c, hmem, hc⟩ := Block.mem_ofContents hblocks hb
      rcases flattenBlock_cases hc with ⟨-, hretold⟩ | ⟨hnot, -⟩
      · exact hretold
      · exact absurd (htell c hmem) hnot
    exact .inl ⟨htell, _, _, blocks, blocks', rfl, rfl, hretold.flip⟩
  · obtain ⟨x, hx, hnot⟩ : ∃ x ∈ m.contents, ¬ x.IsTellable := by simpa using htell
    obtain ⟨b, hb, hxb⟩ :=
      Block.exists_of_isAboutTool hblocks hx (Content.isAboutTool_of_not_isTellable hnot)
    have herror : blocks.mapM flattenBlock = .error numberTooLong := by
      refine Outcome.mapM_eq_error (fun b hb => ?_) ⟨b, hb, ?_⟩
      · obtain ⟨c, -, hc⟩ := Block.mem_ofContents hblocks hb
        rcases flattenBlock_cases hc with ⟨-, b', hretold⟩ | ⟨-, herror⟩
        · exact .inr ⟨b', flattenBlock_retold hretold⟩
        · exact .inl herror
      · rcases flattenBlock_cases hxb with ⟨htold, -⟩ | ⟨-, herror⟩
        · exact absurd htold hnot
        · exact herror
    refine .inr ⟨htell, ?_⟩
    rw [flattenMessage_message, herror]
    rfl

/-- The JSON text of a history in which a call and its result are told. -/
def toldText : String :=
  "[\x7b\"role\": \"user\", \"content\": [\x7b\"text\": \"Add them.\"\x7d]\x7d, " ++
  "\x7b\"role\": \"assistant\", \"content\": [\x7b\"text\": " ++
    "\"Called tool add with input \x7b\\\"a\\\": 1\x7d\"\x7d]\x7d, " ++
  "\x7b\"role\": \"user\", \"content\": [\x7b\"text\": \"Tool result: 3\"\x7d]\x7d]"

end Wire

end Parley
