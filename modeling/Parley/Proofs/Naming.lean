/-
The model that requests are for.

A model is built with an identifier, with options that may name one too, and with
that of its family; its attribute is the first of these.  A request that names no
model looks again, and finds the options first.  So a request goes to the model
that the attribute names unless an identifier was given beside options that name
another one, and then it goes to that other one.  This holds of every request of a
run, of chats as of embeddings: `Run.Sends` says of all that a computation sends.
-/
import Parley.Embedding.Model
import Parley.Proofs.Layers
import Parley.Proofs.Offered

namespace Parley

namespace Run

variable {α β : Type} {P : Document → Prop}

/-! ### What is sent -/

/-- A computation that takes no request back, and sends only such as have a property. -/
def Sends (P : Document → Prop) (x : Run α) : Prop :=
  ∀ s, ∃ sent, (x s).2.requests = s.requests ++ sent ∧ ∀ request ∈ sent, P request

namespace Sends

theorem of_apply {x : Run α} (h : ∀ s, (x s).2.requests = s.requests) : Sends P x :=
  fun s => ⟨[], by rw [h, List.append_nil], by simp⟩

theorem of_quiet {x : Run α} (h : Quiet x) : Sends P x := by
  refine of_apply fun s => ?_
  obtain ⟨rs, hgrows, -⟩ := h s
  rw [hgrows.requests, List.append_nil]

theorem of_repeats {x : Run α} {request : Document} (h : Repeats request x) (hP : P request) :
    Sends P x := by
  intro s
  obtain ⟨k, rs, hgrows, -⟩ := h s
  refine ⟨_, hgrows.requests, fun d hd => ?_⟩
  rwa [List.eq_of_mem_replicate hd]

theorem of_rounds {x : Run α} (h : Rounds (fun r => ∀ request ∈ r.requests, P request) x) :
    Sends P x := by
  intro s
  obtain ⟨rounds, hgrows, hall⟩ := h s
  refine ⟨_, hgrows.requests, fun d hd => ?_⟩
  obtain ⟨r, hr, hmem⟩ := List.mem_flatMap.mp hd
  exact hall r hr d hmem

theorem bind {x : Run α} {f : α → Run β} (hx : Sends P x) (hf : ∀ a, Sends P (f a)) :
    Sends P (x >>= f) := by
  intro s
  obtain ⟨sent, hsent, hall⟩ := hx s
  rw [bind_apply]
  rcases h : x s with ⟨e | a, t⟩ <;> rw [h] at hsent
  · exact ⟨sent, hsent, hall⟩
  · obtain ⟨more, hmore, hall'⟩ := hf a t
    refine ⟨sent ++ more, ?_, fun d hd => (List.mem_append.mp hd).elim (hall d) (hall' d)⟩
    rw [hmore, hsent, List.append_assoc]

theorem mono {Q : Document → Prop} {x : Run α} (h : ∀ request, P request → Q request)
    (hx : Sends P x) : Sends Q x := by
  intro s
  obtain ⟨sent, hsent, hall⟩ := hx s
  exact ⟨sent, hsent, fun d hd => h d (hall d hd)⟩

theorem ofExcept (e : Except Fault α) : Sends P (Run.ofExcept e) := of_quiet (.ofExcept e)

/-- A value that is there is gone on with. -/
theorem ofExcept_bind {e : Except Fault α} {f : α → Run β} (hf : ∀ a, e = .ok a → Sends P (f a)) :
    Sends P (Run.ofExcept e >>= f) := by
  cases e with
  | error h => exact of_apply fun _ => rfl
  | ok a => exact hf a rfl

end Sends

end Run

/-- The only requests of an invocation are invocations with that body. -/
theorem Endpoint.sends_invoke {P : Document → Prop} (p : Policy) (id body : Document)
    (h : ∀ text, jsonBody body = .ok text → P (invocation id text jsonType jsonType)) :
    Run.Sends P (invoke p id body) := by
  refine Run.Sends.bind (.of_apply fun _ => rfl) fun _ => ?_
  refine Run.Sends.ofExcept_bind fun text htext => ?_
  have hsubmit := Run.Sends.of_repeats (repeats_submit p "InvokeModel" _) (h text htext)
  refine hsubmit.bind fun reply => ?_
  exact Run.Sends.bind (.ofExcept _) fun b => .ofExcept _

/-! ### Names -/

/-- The model that a request names. -/
def Wire.namedModel (request : Document) : Option String :=
  (request.get? "modelId").bind Value.asString?

theorem Wire.namedModel_of_modelOf {request : Document} {id : String}
    (h : Endpoint.modelOf request = .ok (.str id)) : namedModel request = some id := by
  unfold Endpoint.modelOf Value.lookup at h
  unfold namedModel Value.get?
  cases request with
  | obj entries =>
      dsimp only at h ⊢
      cases hget : Entries.get? entries "modelId" with
      | none => simp [hget] at h
      | some v =>
          rw [hget, Option.getD_some] at h
          rw [Except.ok.inj h]
          rfl
  | _ => cases h

theorem Wire.namedModel_invocation (id text : String) :
    namedModel (Endpoint.invocation (.str id) text Endpoint.jsonType Endpoint.jsonType) = some id :=
  rfl

theorem nonEmpty?_nonEmpty? (s : Option String) : nonEmpty? (nonEmpty? s) = nonEmpty? s := by
  unfold nonEmpty?
  rw [Option.filter_filter]
  simp

/-- The model that is meant where a request names none: that of the options, or else the attribute
of the model that is asked. -/
def standing (fromOptions own : Option String) : Option String :=
  (nonEmpty? fromOptions).or (nonEmpty? own)

/-- No two models are named by what a model was built with. -/
def Undivided (given fromOptions : Option String) : Prop :=
  ∀ a b, nonEmpty? given = some a → nonEmpty? fromOptions = some b → a = b

/-- The model that the attribute of a model names: the identifier that it was built with, or else
that of its options, or else that of its family. -/
def ownModel (given fromOptions default : Option String) : Option String :=
  ((nonEmpty? given).or (nonEmpty? fromOptions)).or default

theorem nonEmpty?_ownModel {given fromOptions default : Option String}
    (hdefault : nonEmpty? default = default) :
    nonEmpty? (ownModel given fromOptions default) = ownModel given fromOptions default := by
  have hgiven := nonEmpty?_nonEmpty? given
  have hoptions := nonEmpty?_nonEmpty? fromOptions
  unfold ownModel
  cases hg : nonEmpty? given with
  | none =>
      cases ho : nonEmpty? fromOptions with
      | none => exact hdefault
      | some b => rwa [ho] at hoptions
  | some a => rwa [hg] at hgiven

/-- **What is meant is what the attribute names, unless two models were named.** -/
theorem standing_eq_iff {given fromOptions default : Option String}
    (hdefault : nonEmpty? default = default) :
    standing fromOptions (ownModel given fromOptions default) =
      ownModel given fromOptions default ↔ Undivided given fromOptions := by
  have hgiven := nonEmpty?_nonEmpty? given
  have hoptions := nonEmpty?_nonEmpty? fromOptions
  unfold standing ownModel Undivided
  cases hg : nonEmpty? given with
  | none =>
      cases ho : nonEmpty? fromOptions with
      | none => simpa using hdefault
      | some b => simp
  | some a =>
      rw [hg] at hgiven
      cases ho : nonEmpty? fromOptions with
      | none => simpa using hgiven
      | some b =>
          simp only [Option.some_or, Option.some.injEq]
          exact ⟨fun h _ _ ha hb => by rw [← ha, ← hb, h], fun h => (h a b rfl rfl).symm⟩

/-- A request that goes to the model that is meant, and so to the one that the attribute names
exactly where no two models were named. -/
structure IntendedModelId (given fromOptions own : Option String) (request : Document) : Prop where
  named : Wire.namedModel request = standing fromOptions own
  own_iff : Wire.namedModel request = own ↔ Undivided given fromOptions

theorem intended_of_named {given fromOptions default : Option String} {request : Document}
    (hdefault : nonEmpty? default = default)
    (h : Wire.namedModel request = standing fromOptions (ownModel given fromOptions default)) :
    IntendedModelId given fromOptions (ownModel given fromOptions default) request :=
  ⟨h, by rw [h, standing_eq_iff hdefault]⟩

/-! ### Chats -/

namespace ChatModel

variable {m : ChatModel} {arguments : List (String × Given)} {o : Options}

/-- Arguments that name no model, neither themselves nor in the options among them. -/
structure NamesNone (arguments : List (String × Given)) : Prop where
  argument : (Entries.get? arguments "model_id").filter (!·.isNull) = none
  options : ∀ o, layerOf arguments = .ok (some o) → o.modelId.value? = none

/-- Asking for a plain answer names no model either. -/
theorem NamesNone.plain (h : NamesNone arguments) : NamesNone (Client.plain arguments) := by
  have hget (name : String) (hne : "tool_choice" ≠ name) :
      Entries.get? (Client.plain arguments) name = Entries.get? arguments name := by
    unfold Client.plain
    rw [Entries.get?_put, if_neg hne]
  constructor
  · rw [hget _ (by decide)]
    exact h.argument
  · intro o ho
    unfold layerOf at ho
    rw [hget _ (by decide)] at ho
    exact h.options o ho

/-- Where nothing names a model, the options in force name the one that the model's own do. -/
theorem options_modelId (hd : (arguments.map Prod.fst).Nodup) (hnone : NamesNone arguments)
    (h : m.options arguments = .ok o) : o.modelId.value? = m.defaults.modelId.value? := by
  obtain ⟨named, layer, hnamed, hlayer, hcases⟩ := options_ok.mp h
  have hbase : (m.defaults.mergeOption layer).modelId.value? = m.defaults.modelId.value? := by
    cases layer with
    | none => rfl
    | some top =>
        show (m.defaults.modelId.coveredBy top.modelId).value? = _
        rw [Slot.value?_coveredBy, hnone.options top hlayer, Option.none_or]
  rcases hcases with ⟨-, rfl⟩ | ⟨-, top, htop, rfl⟩
  · exact hbase
  · have hget : Entries.get? named "model_id" = none := by
      rw [get?_overrides hd hnamed, if_neg (by decide), if_neg (by decide)]
      exact hnone.argument
    have hunset : top.modelId = .unset :=
      Options.Field.modelId.unset_of (requesting_ok.mp htop) hget
    show ((m.defaults.mergeOption layer).modelId.coveredBy top.modelId).value? = _
    rw [hunset]
    exact hbase

/-- Where nothing names a model, a request that is made names the one that is meant. -/
theorem named_of_makes (hd : (arguments.map Prod.fst).Nodup) (hnone : NamesNone arguments)
    {request : Document} (h : m.Makes arguments request) :
    Wire.namedModel request = standing m.defaults.modelId.value? m.modelId := by
  obtain ⟨o, vs, id, ho, hid, hrequest⟩ := h
  obtain ⟨-, c, -, -, -, hmade⟩ := Wire.request_ok hrequest
  rw [Wire.namedModel_of_modelOf (Wire.requestOf_model hmade)]
  unfold modelIdFor at hid
  rw [options_modelId hd hnone ho] at hid
  unfold standing
  split at hid
  · rename_i id' hid'
    rw [hid', Except.ok.inj hid]
  · cases hid

/-- **Where nothing names a model, every request of a run names the one that is meant**, whatever
the limit and the replies. -/
theorem sends_standing (hd : (arguments.map Prod.fst).Nodup) (hnone : NamesNone arguments)
    (limit : Int) (messages : List Given) :
    let named (request : Document) :=
      Wire.namedModel request = standing m.defaults.modelId.value? m.modelId
    Run.Sends named ((m.bare.looped limit).respond messages arguments) ∧
      Run.Sends named ((m.bare.looped limit).stream messages arguments) := by
  have hdp : ((Client.plain arguments).map Prod.fst).Nodup := Entries.nodup_put hd _ _
  have hrounds := Client.rounds_looped limit
    (P := fun r => ∀ request ∈ r.requests,
      Wire.namedModel request = standing m.defaults.modelId.value? m.modelId)
    (m.asks_bare arguments) (m.asks_bare (Client.plain arguments))
    (fun _ _ r hr d hd' => named_of_makes hd hnone (hr.asks.of_mem hd'))
    (fun r hr d hd' => named_of_makes hdp hnone.plain (hr.asks.of_mem hd')) messages
  exact ⟨.of_rounds hrounds.1, .of_rounds hrounds.2⟩

theorem defaultModelId?_nonEmpty (family : Family) :
    nonEmpty? family.defaultModelId? = family.defaultModelId? := by
  cases family <;> rfl

/-- No family starts with options that name a model. -/
theorem make_modelId {family : Family} {modelId : Option String} {layer : Option Options}
    {policy : Policy} (h : make family modelId layer policy = .ok m) :
    m.defaults.modelId.value? = layer.bind (fun o => o.modelId.value?) ∧
      m.modelId = ownModel modelId (layer.bind fun o => o.modelId.value?)
        family.defaultModelId? := by
  obtain ⟨start, hstart, rfl⟩ := make_ok h
  have hget : Entries.get? family.defaultFields "model_id" = none := by cases family <;> rfl
  have hunset : start.modelId = .unset := Options.Field.modelId.unset_of hstart hget
  have hdefaults : (start.mergeOption layer).modelId.value? =
      layer.bind fun o => o.modelId.value? := by
    cases layer with
    | none =>
        rw [Options.mergeOption, hunset]
        rfl
    | some top =>
        show (start.modelId.coveredBy top.modelId).value? = _
        rw [Slot.value?_coveredBy, hunset]
        exact Option.or_none
  refine ⟨hdefaults, ?_⟩
  dsimp only
  rw [hdefaults]
  rfl

end ChatModel

/-! ### Embeddings -/

namespace EmbeddingOptions

theorem read_ok {family : EmbeddingFamily} {fields : List (String × Given)}
    {o : EmbeddingOptions} (h : ofFields family fields = .ok o) :
    Options.slot fields "model_id" Check.string = .ok o.modelId := by
  have hread : read family fields = .ok o := by
    revert h
    unfold ofFields
    cases read family fields <;> simp [Checked.orInvalid]
  unfold read at hread
  simp only [Checked.ap_ok, Outcome.map_ok] at hread
  obtain ⟨_, _, ⟨_, _, ⟨_, _, ⟨_, _, ⟨_, _, ⟨modelId, hmodelId, rfl⟩, -, rfl⟩, -, rfl⟩, -, rfl⟩, -,
    rfl⟩, -, rfl⟩ := hread
  exact hmodelId

/-- What is found of a field that was given. -/
def given? {α : Type} (write : α → Given) : Slot α → Option Given
  | .unset => none
  | .cleared => some .null
  | .filled a => some (write a)

theorem get?_entry {α : Type} (name key : String) (write : α → Given) (s : Slot α) :
    Entries.get? (entry name write s) key = if name = key then given? write s else none := by
  cases s <;> simp [entry, given?, Entries.get?_cons]

theorem get?_fields (o : EmbeddingOptions) :
    Entries.get? o.fields "model_id" = given? .str o.modelId := by
  simp [fields, Entries.get?_append, get?_entry]

theorem nodup_fields (o : EmbeddingOptions) : (o.fields.map Prod.fst).Nodup := by
  have hentry {α : Type} (name : String) (write : α → Given) (s : Slot α) :
      ((entry name write s).map Prod.fst).Sublist [name] := by
    cases s <;> simp [entry]
  have hall : (o.fields.map Prod.fst).Sublist
      ((((["model_id"] ++ ["input_type"]) ++ ["truncate"]) ++ ["dimensions"]) ++
        ["normalize"]) := by
    unfold fields
    simp only [List.map_append]
    exact ((((hentry _ _ _).append (hentry _ _ _)).append (hentry _ _ _)).append
      (hentry _ _ _)).append (hentry _ _ _)
  exact List.Nodup.sublist hall (by decide)

theorem get?_covering (family : EmbeddingFamily) (top : EmbeddingOptions) :
    Entries.get? (covering family top) "model_id" = top.modelId.value?.map .str := by
  have hfield : "model_id" ∈ family.fieldNames := by cases family <;> decide
  unfold covering
  rw [Entries.get?_filter top.nodup_fields, get?_fields]
  cases top.modelId <;> simp [given?, Slot.value?, Value.isNull, hfield]

/-- **The model of a layer covers that of the layer below.** -/
theorem modelId_merge {under top o : EmbeddingOptions} (h : under.merge top = .ok o) :
    o.modelId.value? = top.modelId.value?.or under.modelId.value? := by
  have hslot := read_ok h
  have hcovering : ((covering under.family top).map Prod.fst).Nodup :=
    top.nodup_fields.sublist (List.filter_sublist.map Prod.fst)
  unfold Options.slot at hslot
  rw [Entries.get?_append, Entries.get?_union_or hcovering, get?_covering, get?_fields] at hslot
  cases htop : top.modelId with
  | filled a =>
      rw [htop] at hslot
      rw [← Except.ok.inj hslot]
      rfl
  | _ =>
      rw [htop] at hslot
      cases hunder : under.modelId <;> rw [hunder] at hslot <;> rw [← Except.ok.inj hslot] <;> rfl

end EmbeddingOptions

namespace EmbeddingModel

variable {m : EmbeddingModel} {layer : Option EmbeddingOptions} {o : EmbeddingOptions}
  {P : Document → Prop}

theorem modelId_mergeOption {under : EmbeddingOptions} (h : under.mergeOption layer = .ok o) :
    o.modelId.value? = (layer.bind fun l => l.modelId.value?).or under.modelId.value? := by
  cases layer with
  | none =>
      rw [← Except.ok.inj h]
      rfl
  | some top => exact EmbeddingOptions.modelId_merge h

/-- The options in force are the model's own, covered by those of the request. -/
theorem options_ok (h : m.options layer = .ok o) : m.defaults.mergeOption layer = .ok o := by
  unfold options at h
  split at h
  · rename_i o' ho'
    rwa [← Except.ok.inj h]
  · split at h <;> cases h

theorem defaultModelId_nonEmpty (family : EmbeddingFamily) :
    nonEmpty? (some family.defaultModelId) = some family.defaultModelId := by
  cases family <;> rfl

theorem make_modelId {family : EmbeddingFamily} {modelId : Option String} {policy : Policy}
    (h : make family modelId layer policy = .ok m) :
    m.defaults.modelId.value? = layer.bind (fun o => o.modelId.value?) ∧
      some m.modelId = ownModel modelId (layer.bind fun o => o.modelId.value?)
        (some family.defaultModelId) := by
  obtain ⟨defaults, hdefaults, h⟩ := Outcome.bind_ok.mp h
  have hmodel := modelId_mergeOption (ChatModel.settingUp_ok hdefaults)
  rw [show (Slot.unset : Slot String).value? = none from rfl, Option.or_none] at hmodel
  rw [← Except.ok.inj h]
  refine ⟨hmodel, ?_⟩
  dsimp only
  rw [hmodel]
  unfold ownModel
  cases (nonEmpty? modelId).or (nonEmpty? (layer.bind fun o => o.modelId.value?)) <;> rfl

/-- Whatever is embedded, each request invokes the model that the options name, or else the model's
own. -/
theorem sends_embed (values : Given)
    (h : ∀ o, m.options layer = .ok o → ∀ text, P (Endpoint.invocation (.str (m.modelIdFor o)) text
      Endpoint.jsonType Endpoint.jsonType)) : Run.Sends P (m.embed values layer) := by
  have heach (o : EmbeddingOptions) (ho : m.options layer = .ok o) :
      ∀ inputs p, Run.Sends P (m.embedEach (m.modelIdFor o) o inputs p) := by
    intro inputs
    induction inputs with
    | nil => exact fun p => .of_quiet (.pure p)
    | cons v rest ih =>
        intro p
        refine .bind (.ofExcept _) fun body => ?_
        refine .bind (Endpoint.sends_invoke _ _ _ fun text _ => h o ho text) fun reply => ?_
        exact .bind (.ofExcept _) fun p => ih p
  unfold embed
  refine .bind (.ofExcept _) fun inputs => ?_
  split
  · exact .of_quiet (.fail _)
  · refine .ofExcept_bind fun o ho => ?_
    split
    · refine .bind (heach o ho _ _) fun p => .bind (.ofExcept _) fun _ => ?_
      exact .bind (.of_apply fun _ => rfl) fun _ => .bind (.ofExcept _) fun _ => .of_quiet (.pure _)
    · refine .bind (.ofExcept _) fun texts => ?_
      refine .bind (Endpoint.sends_invoke _ _ _ fun text _ => h o ho text) fun reply => ?_
      exact .bind (.ofExcept _) fun _ => .of_quiet (.pure _)

theorem sends_embedOne (value : Given) (h : Run.Sends P (m.embed value layer)) :
    Run.Sends P (m.embedOne value layer) := by
  refine h.bind fun r => ?_
  cases r.embeddings with
  | nil => exact .of_quiet (.fail _)
  | cons e _ => exact .of_quiet (.pure _)

end EmbeddingModel

/-! ### The model that is asked -/

/-- Every request of a chat that names no model is as it is intended, whichever way it is asked,
whatever the limit and the replies. -/
def ChatModel.Intends (m : ChatModel) (given fromOptions : Option String) : Prop :=
  ∀ arguments : List (String × Given), (arguments.map Prod.fst).Nodup → NamesNone arguments →
    ∀ limit messages,
      Run.Sends (IntendedModelId given fromOptions m.modelId)
        ((m.bare.looped limit).respond messages arguments) ∧
      Run.Sends (IntendedModelId given fromOptions m.modelId)
        ((m.bare.looped limit).stream messages arguments)

/-- Every request for embeddings that names no model is as it is intended, whatever the inputs and
the replies. -/
def EmbeddingModel.Intends (m : EmbeddingModel) (given fromOptions : Option String) : Prop :=
  ∀ above : Option EmbeddingOptions, above.bind (fun o => o.modelId.value?) = none →
    ∀ values,
      Run.Sends (IntendedModelId given fromOptions (some m.modelId)) (m.embed values above) ∧
      Run.Sends (IntendedModelId given fromOptions (some m.modelId)) (m.embedOne values above)

theorem ChatModel.intends_of_make {family : Family} {modelId : Option String}
    {layer : Option Options} {policy : Policy} {m : ChatModel}
    (hm : make family modelId layer policy = .ok m) :
    m.Intends modelId (layer.bind fun o => o.modelId.value?) := by
  obtain ⟨hdefaults, hown⟩ := make_modelId hm
  intro arguments hd hnone limit messages
  have hintended (request : Document)
      (h : Wire.namedModel request = standing m.defaults.modelId.value? m.modelId) :
      IntendedModelId modelId (layer.bind fun o => o.modelId.value?) m.modelId request := by
    rw [hdefaults, hown] at h
    rw [hown]
    exact intended_of_named (defaultModelId?_nonEmpty family) h
  obtain ⟨hrespond, hstream⟩ := sends_standing hd hnone limit messages
  exact ⟨hrespond.mono hintended, hstream.mono hintended⟩

theorem EmbeddingModel.intends_of_make {family : EmbeddingFamily} {modelId : Option String}
    {layer : Option EmbeddingOptions} {policy : Policy} {m : EmbeddingModel}
    (hm : make family modelId layer policy = .ok m) :
    m.Intends modelId (layer.bind fun o => o.modelId.value?) := by
  obtain ⟨hdefaults, hown⟩ := make_modelId hm
  intro above hnone values
  have hset : nonEmpty? (some m.modelId) = some m.modelId := by
    rw [hown]
    exact nonEmpty?_ownModel (defaultModelId_nonEmpty family)
  have hsends : Run.Sends (IntendedModelId modelId (layer.bind fun o => o.modelId.value?)
      (some m.modelId)) (m.embed values above) := by
    refine sends_embed values fun o ho text => ?_
    have hmodel := modelId_mergeOption (options_ok ho)
    rw [hnone, Option.none_or, hdefaults] at hmodel
    rw [hown]
    refine intended_of_named (defaultModelId_nonEmpty family) ?_
    rw [← hown, Wire.namedModel_invocation]
    unfold modelIdFor standing
    rw [hmodel, hset]
    cases nonEmpty? (layer.bind fun o => o.modelId.value?) <;> rfl
  exact ⟨hsends, sends_embedOne values hsends⟩

/-- **A request that names no model goes to the one that the options of its model name, or else to
the one of the attribute**, which is the same one exactly where no two were named. -/
theorem requested_modelId_intended {family : Family} {embedding : EmbeddingFamily}
    {modelId : Option String} {layer : Option Options}
    {embeddingLayer : Option EmbeddingOptions} {policy : Policy}
    {m : ChatModel} {e : EmbeddingModel} (hm : ChatModel.make family modelId layer policy = .ok m)
    (he : EmbeddingModel.make embedding modelId embeddingLayer policy = .ok e) :
    (m.modelId = ownModel modelId (layer.bind fun o => o.modelId.value?) family.defaultModelId? ∧
      m.Intends modelId (layer.bind fun o => o.modelId.value?)) ∧
    (some e.modelId = ownModel modelId (embeddingLayer.bind fun o => o.modelId.value?)
        (some embedding.defaultModelId) ∧
      e.Intends modelId (embeddingLayer.bind fun o => o.modelId.value?)) :=
  ⟨⟨(ChatModel.make_modelId hm).2, ChatModel.intends_of_make hm⟩,
    (EmbeddingModel.make_modelId he).2, EmbeddingModel.intends_of_make he⟩

/-- A session that answers one request with a text. -/
def greetingSession : Session where
  replies := [.answer (plainReply [.text "Hello."])]

/-- Models that were given an identifier and nothing else are asked under it. -/
theorem undivided_modelId_intended :
    ∃ m e, ChatModel.make .hosted (some "model-a") none {} = .ok m ∧
      EmbeddingModel.make .cohere (some "model-a") none {} = .ok e ∧
      m.Intends (some "model-a") none ∧ e.Intends (some "model-a") none ∧
      ((m.bare.looped 10).respond [.str "Hi."] [] greetingSession).2.requests.map
        Wire.namedModel = [some "model-a"] ∧
      (e.embed (.str "Hi.") none greetingSession).2.requests.map Wire.namedModel =
        [some "model-a"] := by
  obtain ⟨m, hm⟩ : ∃ m, ChatModel.make .hosted (some "model-a") none {} = .ok m := ⟨_, rfl⟩
  obtain ⟨e, he⟩ : ∃ e, EmbeddingModel.make .cohere (some "model-a") none {} = .ok e := ⟨_, rfl⟩
  obtain ⟨⟨-, hchat⟩, -, hembedding⟩ := requested_modelId_intended hm he
  refine ⟨m, e, hm, he, hchat, hembedding, ?_, ?_⟩
  · rw [← Except.ok.inj hm]
    decide +kernel
  · rw [← Except.ok.inj he]
    decide +kernel

/-- Models that were given an identifier and options that name another model are asked under that
other name. -/
theorem divided_modelId_other :
    (∃ m, ChatModel.make .hosted (some "model-a") (some { modelId := .filled "model-b" }) {} =
        .ok m ∧ m.modelId = some "model-a" ∧
      ((m.bare.looped 10).respond [.str "Hi."] [] greetingSession).2.requests.map
        Wire.namedModel = [some "model-b"]) ∧
    (∃ e, EmbeddingModel.make .cohere (some "model-a") (some { modelId := .filled "model-b" }) {} =
        .ok e ∧ e.modelId = "model-a" ∧
      (e.embed (.str "Hi.") none greetingSession).2.requests.map Wire.namedModel =
        [some "model-b"]) :=
  ⟨⟨_, rfl, rfl, by decide +kernel⟩, ⟨_, rfl, rfl, by decide +kernel⟩⟩

end Parley
