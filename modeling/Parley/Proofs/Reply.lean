/-
What a reply says.

A reply of a model is a list of texts and calls.  The service writes each as a
block, with whatever further keys it likes; `Spoken.IsBlock` says which blocks are
read as which.  What is read is written back as the plain block of the same text
or call, so a conversation that goes on holds what the model said and nothing
else: of a message only its gist is written, the role and the substance of each of
its contents.
-/
import Parley.Chat.Model
import Parley.Proofs.Conversation

namespace Parley

/-! ### Reaching into data -/

namespace Value

theorem get?_some {v x : Document} {key : String} (h : v.get? key = some x) :
    ∃ entries, v = .obj entries ∧ Entries.get? entries key = some x := by
  cases v <;> simp_all [get?]

theorem lookup_get? {v x : Document} {key : String} (h : v.get? key = some x) (d : Document) :
    v.lookup key d = .ok x := by
  obtain ⟨entries, rfl, hx⟩ := get?_some h
  simp [lookup, hx]

theorem entry_get? {v x : Document} {key : String} (h : v.get? key = some x) :
    v.entry key = .ok x := by
  obtain ⟨entries, rfl, hx⟩ := get?_some h
  simp [entry, hx]

theorem has_eq_isSome {β : Type} (entries : List (String × β)) (key : String) :
    Entries.has entries key = (Entries.get? entries key).isSome := by
  induction entries with
  | nil => rfl
  | cons e rest ih =>
      rw [Entries.get?_cons]
      unfold Entries.has at ih ⊢
      rw [List.any_cons, ih]
      by_cases h : e.1 = key <;> simp [h]

theorem contains_obj (entries : Properties) (key : String) :
    (.obj entries : Document).contains key = .ok (Entries.get? entries key).isSome := by
  simp [contains, has_eq_isSome]

theorem isSet_of_get? {v x : Document} {key : String} (h : v.get? key = some x) :
    v.isSet = true := by
  obtain ⟨entries, rfl, hx⟩ := get?_some h
  cases entries with
  | nil => simp at hx
  | cons e rest => rfl

end Value

/-! ### Texts and calls -/

/-- One thing that a model says. -/
inductive Spoken where
  | text (s : String)
  | call (id name : String) (input : Properties)
  deriving Inhabited

namespace Spoken

/-- What is said, as the substance of a content. -/
def body : Spoken → Body
  | .text s => .text s
  | .call id name input => .call { id, name, arguments := .entries input }

/-- The requested call, if one is requested. -/
def call? : Spoken → Option Call
  | .text _ => none
  | .call id name input => some { id, name, arguments := .entries input }

/-- The plain block of what is said. -/
def block : Spoken → Document
  | .text s => Block.text s
  | .call id name input => Block.toolUse (.str id) (.str name) (.obj input)

/-- A block that is read as what is said: the keys that matter are there. -/
def IsBlock : Spoken → Document → Prop
  | .text s, b => b.get? "text" = some (.str s)
  | .call id name input, b =>
    b.get? "text" = none ∧ ∃ use, b.get? "toolUse" = some use ∧
      use.get? "toolUseId" = some (.str id) ∧ use.get? "name" = some (.str name) ∧
      use.get? "input" = some (.obj input)

/-- The plain block is one of them. -/
theorem isBlock_block (x : Spoken) : x.IsBlock x.block := by
  cases x with
  | text s => rfl
  | call id name input => exact ⟨rfl, _, rfl, rfl, rfl, rfl⟩

/-! ### Reading -/

theorem readText_text {s : String} {b : Document} (h : (text s).IsBlock b) :
    Wire.readText b = .ok ⟨.text s, b, none⟩ := by
  have hb : b.get? "text" = some (.str s) := h
  unfold Wire.readText
  rw [Value.entry_get? hb, Outcome.ok_bind]
  show Except.ok _ = _
  rw [Given.document_ofDocument]

theorem readCall_call {id name : String} {input : Properties} {b : Document}
    (h : (call id name input).IsBlock b) :
    Wire.readCall b =
      .ok ⟨.call { id, name, arguments := .entries input }, b, none⟩ := by
  obtain ⟨-, use, huse, hid, hname, hinput⟩ := h
  unfold Wire.readCall
  rw [Value.entry_get? huse, Outcome.ok_bind, Value.entry_get? hid, Outcome.ok_bind,
    Value.entry_get? hname, Outcome.ok_bind, Value.lookup_get? hinput, Outcome.ok_bind]
  show Except.ok _ = _
  rw [Given.document_ofDocument]
  show Except.ok (Content.mk (.call ⟨id, name, .entries (Given.documents
    (Value.bindEntries (fun o => .leaf (.foreign o)) input)), none⟩) b none) = _
  rw [Given.documents_wrapped]

theorem blockKind_text {s : String} {b : Document} (h : (text s).IsBlock b) :
    Wire.blockKind b = .ok .text := by
  obtain ⟨entries, rfl, hx⟩ := Value.get?_some h
  simp [Wire.blockKind, Value.contains_obj, hx]

theorem blockKind_call {id name : String} {input : Properties} {b : Document}
    (h : (call id name input).IsBlock b) : Wire.blockKind b = .ok .toolUse := by
  obtain ⟨htext, use, huse, -⟩ := h
  obtain ⟨entries, rfl, hx⟩ := Value.get?_some huse
  have hnone : Entries.get? entries "text" = none := htext
  simp [Wire.blockKind, Value.contains_obj, hx, hnone]

/-- **Blocks are read as what they say**, in order, and nothing else is read. -/
theorem readBlocks_isBlock {xs : List Spoken} {blocks : List Document}
    (h : List.Forall₂ IsBlock xs blocks) (name : Document) :
    ∃ cs, Wire.readBlocks name blocks = .ok cs ∧ cs.map Content.body = xs.map body := by
  induction h generalizing name with
  | nil => exact ⟨[], rfl, rfl⟩
  | @cons x b _ _ hb _ ih =>
      cases x with
      | text s =>
          obtain ⟨cs, hcs, hbodies⟩ := ih name
          refine ⟨⟨.text s, b, none⟩ :: cs, ?_, by rw [List.map_cons, List.map_cons, hbodies]; rfl⟩
          rw [Wire.readBlocks, blockKind_text hb, Outcome.ok_bind, readText_text hb,
            Outcome.ok_bind, hcs]
          rfl
      | call id callName input =>
          have hname : Wire.calledName b = .ok (.str callName) := by
            obtain ⟨-, use, huse, -, hname, -⟩ := hb
            unfold Wire.calledName
            rw [Value.entry_get? huse, Outcome.ok_bind, Value.lookup_get? hname]
          obtain ⟨cs, hcs, hbodies⟩ := ih (.str callName)
          refine ⟨⟨.call { id, name := callName, arguments := .entries input }, b, none⟩ :: cs, ?_,
            by rw [List.map_cons, List.map_cons, hbodies]; rfl⟩
          rw [Wire.readBlocks, blockKind_call hb, Outcome.ok_bind]
          dsimp only
          rw [hname, Outcome.ok_bind, readCall_call hb, Outcome.ok_bind, hcs]
          rfl

end Spoken

/-! ### What contents with the same substance share -/

namespace Body

/-- The requested call that is the substance of a content. -/
def call? : Body → Option Call
  | .call c => some c
  | _ => none

/-- The text that is the substance of a content. -/
def text? : Body → Option String
  | .text s => some s
  | _ => none

end Body

theorem Spoken.call?_body (x : Spoken) : x.body.call? = x.call? := by
  cases x <;> rfl

namespace Content

variable {cs ds : List Content}

theorem calls_eq (cs : List Content) : calls cs = (cs.map body).filterMap Body.call? := by
  rw [List.filterMap_map]
  rfl

theorem joined_congr (h : cs.map body = ds.map body) : joined cs = joined ds := by
  have htexts (xs : List Content) : xs.filterMap text? = (xs.map body).filterMap Body.text? := by
    rw [List.filterMap_map]
    rfl
  unfold joined
  rw [htexts, htexts, h]

end Content

namespace Block

variable {c d : Content} {cs ds : List Content}

theorem ofContent?_congr (h : c.body = d.body) : ofContent? c = ofContent? d := by
  unfold ofContent?
  rw [h]

theorem remark?_congr (h : c.body = d.body) : remark? c = remark? d := by
  unfold remark?
  rw [h]

theorem ofContents_congr (h : cs.map Content.body = ds.map Content.body) :
    ofContents cs = ofContents ds := by
  have hall := forall₂_of_map_eq h
  clear h
  induction hall with
  | nil => rfl
  | cons hc _ ih => rw [ofContents, ofContents, ofContent?_congr hc, ih]

theorem remarks_congr (h : cs.map Content.body = ds.map Content.body) :
    remarks cs = remarks ds := by
  have hall := forall₂_of_map_eq h
  clear h
  induction hall with
  | nil => rfl
  | cons hc _ ih => rw [remarks, remarks, ofContent?_congr hc, remark?_congr hc, ih]

/-- What was said is written as it was said. -/
theorem ofContents_spoken {xs : List Spoken} (h : cs.map Content.body = xs.map Spoken.body) :
    ofContents cs = .ok (xs.map Spoken.block) := by
  have hall := forall₂_of_map_eq h
  clear h
  induction hall with
  | nil => rfl
  | @cons c x _ _ hc _ ih =>
      have hblock : ofContent? c = .ok (some x.block) := by
        unfold ofContent?
        rw [hc]
        cases x <;> rfl
      rw [ofContents, hblock, Outcome.ok_bind, ih]
      rfl

end Block

/-! ### What messages with the same substance share -/

/-- What a message says, and who says it. -/
abbrev Gist := Role × List Body

/-- What a message says, without what else is known of it. -/
def Message.gist (m : Message) : Gist := (m.role, m.contents.map Content.body)

namespace Message

variable {ms ns : List Message}

theorem text_congr {m n : Message} (h : m.gist = n.gist) : m.text = n.text :=
  Content.joined_congr (Prod.mk.inj h).2

theorem calls_eq (ms : List Message) :
    calls ms = (ms.map gist).flatMap fun g => g.2.filterMap Body.call? := by
  unfold calls
  rw [List.flatMap_map]
  exact congrArg (fun f => ms.flatMap f) (funext fun m => Content.calls_eq m.contents)

theorem calls_congr (h : ms.map gist = ns.map gist) : calls ms = calls ns := by
  rw [calls_eq, calls_eq, h]

/-- The calls of a turn are those that were requested. -/
theorem calls_spoken {xs : List Spoken} (h : ms.map gist = [(.assistant, xs.map Spoken.body)]) :
    calls ms = xs.filterMap Spoken.call? := by
  rw [calls_eq, h, List.flatMap_singleton, List.filterMap_map]
  exact congrArg (fun f => xs.filterMap f) (funext Spoken.call?_body)

end Message

namespace Wire

variable {ms ns : List Message}

/-- **Only gists are written.** -/
theorem conversation_congr (h : ms.map Message.gist = ns.map Message.gist) :
    conversation ms = conversation ns ∧ remarks ms = remarks ns := by
  have hall := forall₂_of_map_eq h
  clear h
  induction hall with
  | nil => exact ⟨rfl, rfl⟩
  | cons hm _ ih =>
      obtain ⟨hconv, hremarks⟩ := ih
      obtain ⟨hrole, hbodies⟩ := Prod.mk.inj hm
      constructor
      · unfold conversation blocksOf Conversation.cons
        rw [hconv, hrole, Block.ofContents_congr hbodies, Message.text_congr hm]
      · unfold remarks
        rw [hremarks, hrole, Block.ofContents_congr hbodies, Block.remarks_congr hbodies]

end Wire

/-! ### Replies -/

/-- A reply that says something: its message holds blocks that do, and what stands beside it can be
read. -/
structure IsReply (reply : Document) (xs : List Spoken) : Prop where
  said : ∃ output message blocks, reply.get? "output" = some output ∧
    output.get? "message" = some message ∧ message.get? "content" = some (.list blocks) ∧
    List.Forall₂ Spoken.IsBlock xs blocks
  identified : ∃ id, (ChatModel.replyId reply >>= ChatModel.checkedId) = .ok id
  counted : ∃ usage, (reply.lookup "usage" .null >>= Wire.usage) = .ok usage
  stopped : ∃ reason, (reply.lookup "stopReason" .null >>= Wire.finishReason) = .ok reason

/-- **A reply is read as one message of the assistant that holds what is said.** -/
theorem ChatModel.read_isReply {reply : Document} {xs : List Spoken} (h : IsReply reply xs)
    (modelId : String) :
    ∃ r, (read modelId reply).2 = .ok r ∧
      r.messages.map Message.gist = [(.assistant, xs.map Spoken.body)] ∧
      r.modelId = some modelId ∧
      (reply.lookup "stopReason" .null >>= Wire.finishReason) = .ok r.finishReason ∧
      ∃ counts, (reply.lookup "usage" .null >>= Wire.usage) = .ok counts ∧
        r.usage = some counts := by
  obtain ⟨⟨output, message, blocks, houtput, hmessage, hcontent, hblocks⟩, ⟨textId, hid⟩,
    ⟨usage, husage⟩, ⟨reason, hreason⟩⟩ := h
  obtain ⟨id, hreplyId, hchecked⟩ := Outcome.bind_ok.mp hid
  obtain ⟨counts, hcounts, husage⟩ := Outcome.bind_ok.mp husage
  obtain ⟨word, hword, hreason⟩ := Outcome.bind_ok.mp hreason
  obtain ⟨contents, hcontents, hbodies⟩ := Spoken.readBlocks_isBlock hblocks .null
  have hmessageOf : messageOf reply = .ok message := by
    unfold messageOf
    rw [Value.lookup_get? houtput, Outcome.ok_bind, Value.lookup_get? hmessage, Outcome.ok_bind,
      if_pos (Value.isSet_of_get? hcontent)]
    rfl
  have hread : Wire.contents (.list blocks) = .ok contents := hcontents
  have hgeneration : ∃ g, Generation.ofReply reply message = .ok g := by
    obtain ⟨entries, rfl, -⟩ := Value.get?_some houtput
    exact ⟨_, rfl⟩
  obtain ⟨g, hg⟩ := hgeneration
  refine ⟨{
    messages := [{ role := .assistant, contents, raw := message }]
    id := textId, usage := some usage
    modelId := some modelId
    finishReason := reason
    metadata := .leaf (.generation g)
    raw := reply }, ?_, ?_, rfl, ?_, usage, ?_, rfl⟩
  · unfold read
    rw [hmessageOf, Outcome.ok_bind, hreplyId, Outcome.ok_bind, Value.lookup_get? hcontent]
    dsimp only [Outcome.ok_bind, Outcome.pure_eq]
    rw [hread, Outcome.ok_bind, hcounts, Outcome.ok_bind, husage, Outcome.ok_bind, hword,
      Outcome.ok_bind, hreason, Outcome.ok_bind, hg, Outcome.ok_bind, hchecked]
    rfl
  · rw [← hbodies]
    rfl
  · rw [hword, Outcome.ok_bind]
    exact hreason
  · rw [hcounts, Outcome.ok_bind]
    exact husage

/-- The plainest reply that says something, with the word for why it stopped. -/
def plainReply (xs : List Spoken) (word : String := "end_turn") : Value Attachment :=
  Value.map Attachment.foreign (.obj [("output", .obj [("message", .obj [("content",
    .list (xs.map Spoken.block))])]), ("stopReason", .str word)])

theorem document_plainReply (xs : List Spoken) (word : String) :
    Attachment.document (plainReply xs word) = .obj [("output", .obj [("message", .obj
      [("content", .list (xs.map Spoken.block))])]), ("stopReason", .str word)] := by
  unfold Attachment.document plainReply Value.map
  rw [Value.bind_bind]
  exact Value.bind_leaf _

theorem isReply_plainReply (xs : List Spoken) (word : String) :
    IsReply (Attachment.document (plainReply xs word)) xs := by
  have hblocks : List.Forall₂ Spoken.IsBlock xs (xs.map Spoken.block) := by
    rw [List.forall₂_map_right_iff, List.forall₂_same]
    exact fun x _ => x.isBlock_block
  rw [document_plainReply]
  exact ⟨⟨_, _, _, rfl, rfl, rfl, hblocks⟩, ⟨_, rfl⟩, ⟨_, rfl⟩, ⟨_, rfl⟩⟩

end Parley
