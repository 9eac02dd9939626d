/-
What a conversation becomes on its way to the service.

A block is written for a content, and a message for a message; nothing else gets
into a conversation.  So a property of what is sent is proved content by content,
through `Block.mem_ofContents` and `Wire.conversation_messages`.

Blocks that are written for calls and results are told as text, and no block is
about a tool afterwards: that is what makes a request without tools safe to send
once its messages are flattened.
-/
import Parley.Chat.Loop
import Parley.Wire.Conversation
import Parley.Proofs.Outcome
import Parley.Proofs.Value

namespace Parley

/-- Whether a content is a requested call or the result of one. -/
def Content.isAboutTool (c : Content) : Bool :=
  match c.body with
  | .call _ => true
  | .result _ => true
  | _ => false

namespace Block

/-- Whether a block is that of a requested call or of a result. -/
def isAboutTool (b : Document) : Bool :=
  (b.get? "toolUse").isSome || (b.get? "toolResult").isSome

@[simp] theorem isAboutTool_text (s : String) : isAboutTool (text s) = false := by
  simp [isAboutTool, text, Value.get?, Entries.get?_cons]

@[simp] theorem isAboutTool_image (format : String) (b : List UInt8) :
    isAboutTool (image format b) = false := by
  simp [isAboutTool, image, Value.get?, Entries.get?_cons]

@[simp] theorem isAboutTool_toolUse (id name input : Document) :
    isAboutTool (toolUse id name input) = true := by
  simp [isAboutTool, toolUse, Value.get?, Entries.get?_cons]

@[simp] theorem isAboutTool_toolResult (r : Result) : isAboutTool (toolResult r) = true := by
  simp [isAboutTool, toolResult, Value.get?, Entries.get?_cons]

/-! ### Contents as blocks -/

/-- A content that is about a tool has a block, and its block is about a tool as well. -/
theorem ofContent?_isAboutTool {c : Content} {block : Option Document}
    (h : ofContent? c = .ok block) : block.any isAboutTool = c.isAboutTool := by
  unfold ofContent? at h
  unfold Content.isAboutTool
  cases hc : c.body with
  | text s =>
      rw [hc] at h
      obtain rfl := Except.ok.inj h
      simp
  | data d =>
      simp only [hc] at h
      split at h
      · obtain ⟨b, -, rfl⟩ := Outcome.map_ok.mp h
        simp
      · obtain rfl := Except.ok.inj h
        rfl
  | call call =>
      rw [hc] at h
      obtain ⟨input, -, rfl⟩ := Outcome.map_ok.mp h
      simp
  | result r =>
      rw [hc] at h
      obtain ⟨-, -, rfl⟩ := Outcome.map_ok.mp h
      simp
  | usage u =>
      rw [hc] at h
      obtain rfl := Except.ok.inj h
      rfl

theorem ofContents_cons_ok {c : Content} {rest : List Content} {blocks : List Document} :
    ofContents (c :: rest) = .ok blocks ↔
      ∃ block more, ofContent? c = .ok block ∧ ofContents rest = .ok more ∧
        blocks = block.toList ++ more := by
  rw [ofContents, Outcome.bind_ok]
  constructor
  · rintro ⟨block, hblock, h⟩
    obtain ⟨more, hmore, h⟩ := Outcome.bind_ok.mp h
    exact ⟨block, more, hblock, hmore, (Except.ok.inj h).symm⟩
  · rintro ⟨block, more, hblock, hmore, rfl⟩
    exact ⟨block, hblock, by rw [hmore]; rfl⟩

/-- The blocks of contents are those of each of them. -/
theorem mem_ofContents {cs : List Content} {blocks : List Document}
    (h : ofContents cs = .ok blocks) {b : Document} (hb : b ∈ blocks) :
    ∃ c ∈ cs, ofContent? c = .ok (some b) := by
  induction cs generalizing blocks with
  | nil =>
      obtain rfl := Except.ok.inj h
      simp at hb
  | cons c rest ih =>
      obtain ⟨block, more, hblock, hmore, rfl⟩ := ofContents_cons_ok.mp h
      rcases List.mem_append.mp hb with hb | hb
      · have hsome : block = some b := by simpa using hb
        exact ⟨c, by simp, hsome ▸ hblock⟩
      · obtain ⟨c', hc', hb'⟩ := ih hmore hb
        exact ⟨c', by simp [hc'], hb'⟩

/-- A content among others that is about a tool has its block among theirs. -/
theorem exists_of_isAboutTool {cs : List Content} {blocks : List Document}
    (h : ofContents cs = .ok blocks) {c : Content} (hc : c ∈ cs) (htool : c.isAboutTool = true) :
    ∃ b ∈ blocks, ofContent? c = .ok (some b) := by
  induction cs generalizing blocks with
  | nil => simp at hc
  | cons first rest ih =>
      obtain ⟨block, more, hblock, hmore, rfl⟩ := ofContents_cons_ok.mp h
      rcases List.mem_cons.mp hc with rfl | hc
      · have hany := (ofContent?_isAboutTool hblock).trans htool
        cases block with
        | none => simp at hany
        | some b => exact ⟨b, by simp, hblock⟩
      · obtain ⟨b, hb, hbc⟩ := ih hmore hc
        exact ⟨b, by simp [hb], hbc⟩

/-- Blocks are about tools when the contents are. -/
theorem ofContents_any_isAboutTool {cs : List Content} {blocks : List Document}
    (h : ofContents cs = .ok blocks) :
    blocks.any isAboutTool = cs.any Content.isAboutTool := by
  induction cs generalizing blocks with
  | nil =>
      obtain rfl := Except.ok.inj h
      rfl
  | cons c rest ih =>
      obtain ⟨block, more, hblock, hmore, rfl⟩ := ofContents_cons_ok.mp h
      rw [List.any_append, List.any_cons, ih hmore, ← ofContent?_isAboutTool hblock]
      cases block <;> simp

end Block

namespace Wire

/-! ### Blocks about tools as text -/

/-- What is told of a call is a text. -/
theorem calledText_ok {use b : Document} (h : calledText use = .ok b) : ∃ s, b = Block.text s := by
  obtain ⟨input, -, h⟩ := Outcome.bind_ok.mp h
  obtain ⟨name, -, h⟩ := Outcome.bind_ok.mp h
  obtain ⟨text, -, h⟩ := Outcome.bind_ok.mp h
  obtain ⟨-, -, h⟩ := Outcome.bind_ok.mp h
  exact ⟨_, (Except.ok.inj h).symm⟩

/-- What is told of a result is a text. -/
theorem resultText_ok {result b : Document} (h : resultText result = .ok b) :
    ∃ s, b = Block.text s := by
  obtain ⟨content, -, h⟩ := Outcome.bind_ok.mp h
  obtain ⟨items, -, h⟩ := Outcome.bind_ok.mp h
  obtain ⟨docs, -, h⟩ := Outcome.bind_ok.mp h
  obtain ⟨parts, -, h⟩ := Outcome.bind_ok.mp h
  exact ⟨_, (Except.ok.inj h).symm⟩

theorem flattenBlock_toolUse (id name input : Document) :
    flattenBlock (Block.toolUse id name input) =
      calledText (.obj [("toolUseId", id), ("name", name), ("input", input)]) := by
  simp [flattenBlock, Block.toolUse, Value.lookup, Entries.get?_cons, Value.isSet]

theorem flattenBlock_toolResult (r : Result) :
    ∃ result, flattenBlock (Block.toolResult r) = resultText result := by
  simp [flattenBlock, Block.toolResult, Value.lookup, Entries.get?_cons, Value.isSet]

/-- A block without a tool in it is left as it is. -/
theorem flattenBlock_other {entries : Properties}
    (h : Block.isAboutTool (.obj entries) = false) :
    flattenBlock (.obj entries) = .ok (.obj entries) := by
  simp only [Block.isAboutTool, Value.get?, Bool.or_eq_false_iff, Option.isSome_eq_false_iff,
    Option.isNone_iff_eq_none] at h
  simp [flattenBlock, Value.lookup, h.1, h.2, Value.isSet]

/-- **What is told of a block that was written mentions no tool.** -/
theorem flattenBlock_written {c : Content} {b b' : Document}
    (h : Block.ofContent? c = .ok (some b)) (hb : flattenBlock b = .ok b') :
    Block.isAboutTool b' = false := by
  unfold Block.ofContent? at h
  cases hc : c.body with
  | text s =>
      rw [hc] at h
      obtain rfl := Option.some.inj (Except.ok.inj h)
      have hplain := Block.isAboutTool_text s
      obtain rfl := Except.ok.inj ((flattenBlock_other hplain).symm.trans hb)
      exact hplain
  | data d =>
      simp only [hc] at h
      split at h
      · obtain ⟨bytes, -, himage⟩ := Outcome.map_ok.mp h
        obtain rfl := Option.some.inj himage
        have hplain := Block.isAboutTool_image (Block.imageFormat d.mediaType) bytes
        obtain rfl := Except.ok.inj ((flattenBlock_other hplain).symm.trans hb)
        exact hplain
      · simp at h
  | call call =>
      rw [hc] at h
      obtain ⟨input, -, huse⟩ := Outcome.map_ok.mp h
      obtain rfl := Option.some.inj huse
      rw [flattenBlock_toolUse] at hb
      obtain ⟨s, rfl⟩ := calledText_ok hb
      exact Block.isAboutTool_text s
  | result r =>
      rw [hc] at h
      obtain ⟨-, -, hresult⟩ := Outcome.map_ok.mp h
      obtain rfl := Option.some.inj hresult
      obtain ⟨result, heq⟩ := flattenBlock_toolResult r
      rw [heq] at hb
      obtain ⟨s, rfl⟩ := resultText_ok hb
      exact Block.isAboutTool_text s
  | usage u =>
      rw [hc] at h
      simp at h

/-! ### Messages in the service's form -/

/-- A message of the service that was written for a message. -/
def IsMessageOf (m : Message) (d : Document) : Prop :=
  ∃ blocks, Block.ofContents m.contents = .ok blocks ∧ d = message (.str (speaker m.role)) blocks

theorem conversation_cons_ok {m : Message} {rest : List Message} {c : Conversation} :
    conversation (m :: rest) = .ok c ↔
      ∃ blocks more, blocksOf m = .ok blocks ∧ conversation rest = .ok more ∧
        c = more.cons m blocks := by
  rw [conversation, Outcome.bind_ok]
  constructor
  · rintro ⟨blocks, hblocks, h⟩
    obtain ⟨more, hmore, h⟩ := Outcome.bind_ok.mp h
    exact ⟨blocks, more, hblocks, hmore, (Except.ok.inj h).symm⟩
  · rintro ⟨blocks, more, hblocks, hmore, rfl⟩
    exact ⟨blocks, hblocks, by rw [hmore]; rfl⟩

/-- **One message is written for each message but those of the system, in order.** -/
theorem conversation_messages {ms : List Message} {c : Conversation}
    (h : conversation ms = .ok c) :
    List.Forall₂ IsMessageOf (ms.filter fun m => m.role ≠ .system) c.messages := by
  induction ms generalizing c with
  | nil =>
      obtain rfl := Except.ok.inj h
      exact .nil
  | cons m rest ih =>
      obtain ⟨blocks, more, hblocks, hmore, rfl⟩ := conversation_cons_ok.mp h
      unfold blocksOf at hblocks
      unfold Conversation.cons
      by_cases hm : m.role = .system
      · simpa [hm] using ih hmore
      · rw [if_neg hm] at hblocks ⊢
        rw [List.filter_cons_of_pos (by simpa using hm)]
        exact .cons ⟨blocks, hblocks, rfl⟩ (ih hmore)

/-- A conversation behind another. -/
def Conversation.append (a b : Conversation) : Conversation :=
  ⟨a.messages ++ b.messages, a.system ++ b.system⟩

theorem conversation_append (a b : List Message) :
    conversation (a ++ b) =
      conversation a >>= fun x => conversation b >>= fun y => .ok (x.append y) := by
  induction a with
  | nil =>
      show conversation b = (conversation b).bind fun y => .ok (Conversation.append {} y)
      cases conversation b <;> rfl
  | cons m rest ih =>
      rw [List.cons_append, conversation, conversation, ih]
      cases blocksOf m with
      | error f => rfl
      | ok blocks =>
          cases conversation rest with
          | error f => rfl
          | ok x =>
              cases conversation b with
              | error f => rfl
              | ok y =>
                  simp only [Outcome.ok_bind, Outcome.pure_eq, Conversation.cons,
                    Conversation.append]
                  split <;> rfl

/-- Values behind others are looked at only if nothing before them stands in the way. -/
theorem leading_append {α : Type} (pick : Given → Option α) (vs ws : List Given) :
    Given.leading pick (vs ++ ws) = match Given.leading pick vs with
      | (as, none) => (as ++ (Given.leading pick ws).1, (Given.leading pick ws).2)
      | (as, some v) => (as, some v) := by
  induction vs with
  | nil => rfl
  | cons v rest ih =>
      rw [List.cons_append, Given.leading, Given.leading, ih]
      cases pick v with
      | none => rfl
      | some a => rcases Given.leading pick rest with ⟨as, _ | w⟩ <;> rfl

theorem given_append (ms ns : List Message) :
    Client.given (ms ++ ns) = Client.given ms ++ Client.given ns :=
  List.map_append

theorem leading_given (ms : List Message) :
    Given.leading Message.ofGiven? (Client.given ms) = (ms, none) := by
  induction ms with
  | nil => rfl
  | cons m rest ih =>
      have hstep : Given.leading Message.ofGiven? (Client.given (m :: rest)) =
          (m :: (Given.leading Message.ofGiven? (Client.given rest)).1,
            (Given.leading Message.ofGiven? (Client.given rest)).2) := rfl
      rw [hstep, ih]

theorem leading_messages {vs : List Given} (h : (Given.leading Message.ofGiven? vs).2 = none) :
    vs = Client.given (Given.leading Message.ofGiven? vs).1 := by
  induction vs with
  | nil => rfl
  | cons v rest ih =>
      unfold Given.leading at h ⊢
      cases hv : Message.ofGiven? v with
      | none => simp [hv] at h
      | some m =>
          simp only [hv] at h ⊢
          have hm : v = .leaf (.message m) := by
            unfold Message.ofGiven? at hv
            split at hv
            · rw [Option.some.inj hv]
            · simp at hv
          exact congrArg₂ List.cons hm (ih h)

/-- Values make a conversation only if they are messages. -/
theorem conversationOf_ok {vs : List Given} {c : Conversation} :
    conversationOf vs = .ok c ↔ ∃ ms, vs = Client.given ms ∧ conversation ms = .ok c := by
  constructor
  · intro h
    unfold conversationOf at h
    obtain ⟨x, hx, h⟩ := Outcome.bind_ok.mp h
    refine ⟨_, leading_messages ?_, ?_⟩
    · split at h
      · simp at h
      · assumption
    · split at h
      · simp at h
      · rw [hx, ← Except.ok.inj h]
  · rintro ⟨ms, rfl, h⟩
    simp [conversationOf, leading_given, h]

/-- A message is told block by block, and its role stays. -/
theorem flattenMessage_message (role : Document) (blocks : List Document) :
    flattenMessage (message role blocks) =
      (blocks.mapM flattenBlock).map fun flat => message role flat := by
  have hread : flattenMessage (message role blocks) =
      blocks.mapM flattenBlock >>= fun flat => .ok (message role flat) := rfl
  rw [hread]
  cases blocks.mapM flattenBlock <;> rfl

/-- **What is told of a message that was written mentions no tool.** -/
theorem flattenMessage_written {m : Message} {d d' : Document} (h : IsMessageOf m d)
    (hd : flattenMessage d = .ok d') :
    ∃ blocks, d' = message (.str (speaker m.role)) blocks ∧
      ∀ b ∈ blocks, Block.isAboutTool b = false := by
  obtain ⟨blocks, hblocks, rfl⟩ := h
  rw [flattenMessage_message] at hd
  obtain ⟨flat, hflat, rfl⟩ := Outcome.map_ok.mp hd
  refine ⟨flat, rfl, fun b' hb' => ?_⟩
  obtain ⟨b, hb, hbb'⟩ := exists_mem_of_forall₂ (Outcome.mapM_ok.mp hflat).flip hb'
  obtain ⟨c, -, hc⟩ := Block.mem_ofContents hblocks hb
  exact flattenBlock_written hc hbb'

end Wire

end Parley
