/-
Requests that mention tools without offering any.

The service refuses a request whose messages hold calls or results when the
request offers no tools.  Switching tools off takes care of that: the messages
are flattened.  Having no tools in the first place does not, and neither does an
empty list of them.  `mentions_unoffered_iff` says exactly which requests are
affected.
-/
import Parley.Wire.Request
import Parley.Proofs.Conversation

namespace Parley

/-- An offered tool as loosely typed data. -/
def ToolItem.given : ToolItem → Given
  | .tool t => .leaf (.tool t)
  | .described entries => Given.ofDocument (.obj entries)

namespace Wire

theorem givenTools_eq (items : List ToolItem) :
    givenTools items = .list (items.map ToolItem.given) :=
  congrArg Value.list (List.map_congr_left fun item _ => by cases item <;> rfl)

/-- The messages of a request. -/
def messagesIn (r : Document) : List Document :=
  match r.get? "messages" with
  | some (.list ms) => ms
  | _ => []

/-- The blocks of a message in the service's form. -/
def blocksIn (d : Document) : List Document :=
  match d.get? "content" with
  | some (.list blocks) => blocks
  | _ => []

/-- Whether a request holds blocks about tools. -/
def mentionsTools (r : Document) : Bool :=
  (messagesIn r).any fun d => (blocksIn d).any Block.isAboutTool

/-- Whether a request offers tools. -/
def offersTools (r : Document) : Bool :=
  (r.get? "toolConfig").isSome

@[simp] theorem blocksIn_message (role : Document) (blocks : List Document) :
    blocksIn (message role blocks) = blocks := by
  simp [blocksIn, message, Value.get?, Entries.get?_cons]

/-! ### The parts of a request -/

/-- A request holds the messages and the tools that were settled for it. -/
theorem requestOf_ok {c : Conversation} {o : Options} {id : String} {r : Document}
    (h : requestOf c o id = .ok r) :
    ∃ messages tools, messagesAndTools c.messages o = .ok (messages, tools) ∧
      messagesIn r = messages ∧ r.get? "toolConfig" = Entries.get? tools "toolConfig" := by
  obtain ⟨⟨messages, tools⟩, hmt, h⟩ := Outcome.bind_ok.mp h
  obtain rfl := Except.ok.inj h
  refine ⟨messages, tools, hmt, ?_, ?_⟩
  · simp [messagesIn, Value.get?, Entries.get?_cons]
  · simp only [Value.get?, Entries.get?_append]
    cases c.system.isEmpty <;> cases o.modelFields <;> simp [Entries.get?_cons]

/-- **With tools on, a request holds the messages as they are and the offer of the tools.** -/
theorem requestOf_on {c : Conversation} {o : Options} {id : String} {r : Document}
    (hoff : o.toolsOff = false) (h : requestOf c o id = .ok r) :
    messagesIn r = c.messages ∧ offered o = .ok (r.get? "toolConfig") := by
  obtain ⟨messages, tools, hmt, rfl, htools⟩ := requestOf_ok h
  unfold messagesAndTools at hmt
  rw [hoff, if_neg Bool.false_ne_true] at hmt
  obtain ⟨config, hconfig, heq⟩ := Outcome.map_ok.mp hmt
  obtain ⟨hmessages, rfl⟩ := Prod.mk.inj heq
  refine ⟨hmessages.symm, ?_⟩
  rw [htools, hconfig]
  cases config <;> simp [Entries.get?_cons]

/-- **With tools off, a request holds the messages without tools and offers none.** -/
theorem requestOf_off {c : Conversation} {o : Options} {id : String} {r : Document}
    (hoff : o.toolsOff = true) (h : requestOf c o id = .ok r) :
    flatten c.messages = .ok (messagesIn r) ∧ r.get? "toolConfig" = none := by
  obtain ⟨messages, tools, hmt, rfl, htools⟩ := requestOf_ok h
  unfold messagesAndTools at hmt
  rw [if_pos hoff] at hmt
  obtain ⟨flat, hflat, heq⟩ := Outcome.map_ok.mp hmt
  obtain ⟨rfl, rfl⟩ := Prod.mk.inj heq
  exact ⟨hflat, htools⟩

/-- With tools on, a request can be made when the offer can. -/
theorem exists_requestOf_on {o : Options} {config : Option Document} (hoff : o.toolsOff = false)
    (h : offered o = .ok config) (c : Conversation) (id : String) :
    ∃ r, requestOf c o id = .ok r := by
  unfold requestOf messagesAndTools
  rw [hoff, if_neg Bool.false_ne_true, h]
  exact ⟨_, rfl⟩

/-- With tools off, a request can be made when the messages can do without them. -/
theorem exists_requestOf_off {o : Options} {c : Conversation} {flat : List Document}
    (hoff : o.toolsOff = true) (h : flatten c.messages = .ok flat) (id : String) :
    ∃ r, requestOf c o id = .ok r := by
  unfold requestOf messagesAndTools
  rw [if_pos hoff, h]
  exact ⟨_, rfl⟩

/-- With tools off, no request can be made when the messages cannot do without them. -/
theorem requestOf_unflat {o : Options} {c : Conversation} {f : Fault} (hoff : o.toolsOff = true)
    (h : flatten c.messages = .error f) (id : String) : requestOf c o id = .error f := by
  unfold requestOf messagesAndTools
  rw [if_pos hoff, h]
  rfl

/-- A request names the model that it is for. -/
theorem requestOf_model {c : Conversation} {o : Options} {id : String} {r : Document}
    (h : requestOf c o id = .ok r) : r.lookup "modelId" .null = .ok (.str id) := by
  obtain ⟨⟨messages, tools⟩, -, h⟩ := Outcome.bind_ok.mp h
  obtain rfl := Except.ok.inj h
  simp [Value.lookup, Entries.get?_cons]

theorem toolSpecOf?_given {item : ToolItem} {spec : Option Document}
    (h : toolSpecOf? item.given = .ok spec) : ∃ s, spec = some s := by
  cases item with
  | tool t =>
      obtain ⟨s, -, rfl⟩ := Outcome.map_ok.mp h
      exact ⟨s, rfl⟩
  | described entries => exact ⟨_, (Except.ok.inj h).symm⟩

/-- Each offered tool has one specification, and without any there is no entry for them. -/
theorem toolConfig_ok {items : List ToolItem} {config : Option Document}
    (h : toolConfig (givenTools items) = .ok config) :
    ∃ specs, List.Forall₂ (fun item spec => toolSpecOf? item.given = .ok (some spec)) items specs ∧
      config = if specs = [] then none else some (.obj [("tools", .list specs)]) := by
  rw [givenTools_eq] at h
  cases items with
  | nil => exact ⟨[], .nil, (Except.ok.inj h).symm⟩
  | cons item rest =>
      simp only [toolConfig, Value.isSet, List.map_cons, List.isEmpty_cons, Given.items,
        Given.items?, Bool.not_false, Bool.not_true, Bool.false_eq_true, if_false,
        Outcome.ok_bind] at h
      obtain ⟨specs, hspecs, h⟩ := Outcome.bind_ok.mp h
      have hread := Outcome.mapM_ok.mp hspecs
      rw [← List.map_cons, List.forall₂_map_left_iff] at hread
      have hsome : ∀ (items : List ToolItem) (specs : List (Option Document)),
          List.Forall₂ (fun item spec => toolSpecOf? item.given = .ok spec) items specs →
          List.Forall₂ (fun item spec => toolSpecOf? item.given = .ok (some spec)) items
            (specs.filterMap id) := by
        intro items specs hread
        induction hread with
        | nil => exact .nil
        | cons hspec _ ih =>
            obtain ⟨s, rfl⟩ := toolSpecOf?_given hspec
            exact .cons hspec ih
      have hall := hsome _ _ hread
      refine ⟨specs.filterMap id, hall, ?_⟩
      cases hfilter : specs.filterMap id with
      | nil =>
          rw [hfilter] at hall
          cases hall
      | cons spec more =>
          rw [hfilter] at h
          rw [if_neg (by simp)]
          exact (Except.ok.inj h).symm

/-- The entry for the tools holds their specifications, whatever is said about the choice. -/
theorem offered_ok {o : Options} {config : Option Document} (h : offered o = .ok config) :
    ∃ specs, List.Forall₂ (fun item spec => toolSpecOf? item.given = .ok (some spec))
        (o.tools.value?.getD []) specs ∧
      (config = none ↔ specs = []) ∧
      ∀ c, config = some c → c.get? "tools" = some (.list specs) := by
  obtain ⟨c, hc, h⟩ := Outcome.bind_ok.mp h
  obtain ⟨specs, hspecs, rfl⟩ := toolConfig_ok hc
  refine ⟨specs, hspecs, ?_⟩
  by_cases hempty : specs = []
  · rw [if_pos hempty] at h
    obtain rfl := Except.ok.inj h
    simp [hempty]
  · rw [if_neg hempty] at h
    dsimp only at h
    split at h
    · obtain rfl := Except.ok.inj h
      simp [hempty, Value.get?, Entries.get?_put, Entries.get?_cons]
    · obtain rfl := Except.ok.inj h
      simp [hempty, Value.get?, Entries.get?_cons]

theorem offered_eq_none {o : Options} {config : Option Document}
    (h : offered o = .ok config) : config = none ↔ o.tools.value?.getD [] = [] := by
  obtain ⟨specs, hspecs, hnone, -⟩ := offered_ok h
  rw [hnone]
  generalize o.tools.value?.getD [] = items at hspecs ⊢
  cases hspecs <;> simp

/-! ### What the messages of a request mention -/

/-- Flattened messages mention no tool. -/
theorem flatten_written {ms : List Message} {ds flat : List Document}
    (h : List.Forall₂ IsMessageOf ms ds) (hflat : flatten ds = .ok flat) :
    ∀ d ∈ flat, (blocksIn d).any Block.isAboutTool = false := by
  intro d' hd'
  obtain ⟨d, hd, hdd'⟩ := exists_mem_of_forall₂ (Outcome.mapM_ok.mp hflat).flip hd'
  obtain ⟨m, -, hm⟩ := exists_mem_of_forall₂ h.flip hd
  obtain ⟨blocks, rfl, hno⟩ := flattenMessage_written hm hdd'
  rw [blocksIn_message, List.any_eq_false]
  exact fun b hb => by simp [hno b hb]

/-- Messages that travel as they are mention what was said about tools. -/
theorem any_mentions_written {ms : List Message} {ds : List Document}
    (h : List.Forall₂ IsMessageOf ms ds) :
    (ds.any fun d => (blocksIn d).any Block.isAboutTool) =
      ms.any fun m => m.contents.any Content.isAboutTool := by
  induction h with
  | nil => rfl
  | cons hd _ ih =>
      obtain ⟨blocks, hblocks, rfl⟩ := hd
      rw [List.any_cons, List.any_cons, ih, blocksIn_message,
        Block.ofContents_any_isAboutTool hblocks]

theorem request_ok {vs : List Given} {o : Options} {id : String} {r : Document}
    (h : (request vs o id).2 = .ok r) :
    ∃ ms c, vs = Client.given ms ∧ conversation ms = .ok c ∧ c.messages ≠ [] ∧
      requestOf c o id = .ok r := by
  unfold request at h
  cases hc : conversationOf vs with
  | error f => simp [hc] at h
  | ok c =>
      obtain ⟨ms, hms, hconv⟩ := conversationOf_ok.mp hc
      simp only [hc] at h
      split at h
      · simp at h
      · rename_i hne
        split at h
        · simp at h
        · rename_i r' hr'
          obtain rfl := Except.ok.inj h
          exact ⟨ms, c, hms, hconv, by simpa using hne, hr'⟩

/-- **Calls and results travel without tools exactly when no tools were given and tools were not
switched off.**  Every other request either offers tools or mentions none. -/
theorem mentions_unoffered_iff {vs : List Given} {o : Options} {id : String} {r : Document}
    (h : (request vs o id).2 = .ok r) :
    (offersTools r = false ∧ mentionsTools r = true) ↔
      (o.toolsOff = false ∧ o.tools.value?.getD [] = [] ∧
        ∃ m, Value.leaf (.message m) ∈ vs ∧ m.role ≠ .system ∧
          m.contents.any Content.isAboutTool = true) := by
  obtain ⟨ms, c, rfl, hconv, -, hr⟩ := request_ok h
  have hwritten := conversation_messages hconv
  have hsaid : (∃ m, Value.leaf (.message m) ∈ Client.given ms ∧ m.role ≠ .system ∧
      m.contents.any Content.isAboutTool = true) ↔
      (c.messages.any fun d => (blocksIn d).any Block.isAboutTool) = true := by
    rw [any_mentions_written hwritten]
    simp [Client.given]
  unfold mentionsTools offersTools
  rw [hsaid]
  by_cases hoff : o.toolsOff = true
  · -- Tools are off: the messages are flat.
    obtain ⟨hflat, -⟩ := requestOf_off hoff hr
    have hno := flatten_written hwritten hflat
    have hnone : ((messagesIn r).any fun d => (blocksIn d).any Block.isAboutTool) = false := by
      rw [List.any_eq_false]
      exact fun d hd => by simp [hno d hd]
    simp [hnone, hoff]
  · obtain ⟨hmessages, hoffered⟩ := requestOf_on (by simpa using hoff) hr
    rw [hmessages, ← offered_eq_none hoffered]
    simp [hoff]

/-- A question, the call that it led to, and the result. -/
def toldHistory : List Message :=
  [.ofText "Add them.",
    { role := .assistant
      contents := [⟨.call { id := "t1", name := "add", arguments := .entries [("a", .int 1)] },
        .null, none⟩] },
    .ofResults [{ id := "t1", name := some "add", value := .int 3 }]]

/-- A history with a call and its result travels unprotected when no tools are given. -/
theorem toldHistory_mentions_unoffered :
    ∃ r, (request (Client.given toldHistory) {} "m").2 = .ok r ∧
      offersTools r = false ∧ mentionsTools r = true := by
  have hmade : (request (Client.given toldHistory) {} "m").2.toOption.isSome := by decide +kernel
  obtain ⟨r, hr⟩ := Option.isSome_iff_exists.mp hmade
  have hr := Outcome.toOption_eq_some.mp hr
  refine ⟨r, hr, (mentions_unoffered_iff hr).mpr ⟨rfl, rfl, _, .tail _ (.head _), ?_, rfl⟩⟩
  decide

/-- So offering no tools does not keep tools from being mentioned. -/
theorem mentions_of_not_offered :
    ¬ ∀ vs o id r, (request vs o id).2 = .ok r →
      offersTools r = false → mentionsTools r = false := by
  intro h
  have hmade : ((request (Client.given toldHistory) {} "m").2.toOption.map fun r =>
      (offersTools r, mentionsTools r)) = some (false, true) := by
    decide +kernel
  obtain ⟨r, hr, hsaid⟩ := Option.map_eq_some_iff.mp hmade
  obtain ⟨hnone, hsome⟩ := Prod.mk.inj hsaid
  have hmentions := h _ _ _ r (Outcome.toOption_eq_some.mp hr) hnone
  exact Bool.false_ne_true (hmentions.symm.trans hsome)

end Wire

end Parley
