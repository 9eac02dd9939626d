/-
The options in force, and the tools that are run.

A request is made from the options in force, while the tools that calls are run
with are looked up again in the arguments.  The two agree unless an empty list of
tools covers the tools of a lower layer: `ChatModel.clearsTools` says when that
is, and `ChatModel.tools_read` that otherwise the tools picked are those that the
options were read from.

Asking for a plain answer changes nothing about the options but the choice of
tools, which `ChatModel.options_plain` states.

The names of arguments are taken to be distinct, as those of a dictionary are.
-/
import Parley.Chat.Model
import Parley.Proofs.Request

namespace Parley

/-- What is on top counts, or else what is below. -/
theorem Slot.value?_coveredBy {α : Type} (under top : Slot α) :
    (under.coveredBy top).value? = top.value?.or under.value? := by
  cases top <;> rfl

namespace Options

theorem tools_mergeOption (under : Options) (layer : Option Options) :
    (under.mergeOption layer).tools.value? =
      (layer.bind fun o => o.tools.value?).or under.tools.value? := by
  cases layer with
  | none => rfl
  | some top => exact Slot.value?_coveredBy under.tools top.tools

/-- The options for a plain answer: tools are off. -/
def plain (o : Options) : Options :=
  { o with toolChoice := .filled .off, propertiesGiven := true }

theorem toolsOff_plain (o : Options) : o.plain.toolsOff = true := rfl

/-- Options are read field by field. -/
theorem read_ok {family : Family} {fields : List (String × Given)} {o : Options} :
    read family fields = .ok o ↔
      slot fields "model_id" Check.string = .ok o.modelId ∧
      slot fields "max_tokens" Check.positive = .ok o.maxTokens ∧
      slot fields "temperature" Check.probability = .ok o.temperature ∧
      slot fields "top_p" Check.probability = .ok o.topP ∧
      slot fields "stop" Stop.ofGiven = .ok o.stop ∧
      slot fields "tool_choice" ToolMode.ofGiven = .ok o.toolChoice ∧
      slot fields "tools" ToolItem.listOfGiven = .ok o.tools ∧
      Check.field fields "additional_properties" Check.properties [] = .ok o.properties ∧
      (if family.hasTopK then slot fields "top_k" Check.positive else .ok .unset) = .ok o.topK ∧
      o.family = family ∧ o.propertiesGiven = Entries.has fields "additional_properties" := by
  unfold read
  simp only [Checked.ap_ok, Outcome.map_ok]
  constructor
  · rintro ⟨_, topK, ⟨_, properties, ⟨_, tools, ⟨_, choice, ⟨_, stop, ⟨_, topP, ⟨_, temperature,
      ⟨_, maxTokens, ⟨modelId, h1, rfl⟩, h2, rfl⟩, h3, rfl⟩, h4, rfl⟩, h5, rfl⟩, h6, rfl⟩, h7, rfl⟩,
      h8, rfl⟩, h9, rfl⟩
    exact ⟨h1, h2, h3, h4, h5, h6, h7, h8, h9, rfl, rfl⟩
  · rintro ⟨h1, h2, h3, h4, h5, h6, h7, h8, h9, rfl, hgiven⟩
    refine ⟨_, _, ⟨_, _, ⟨_, _, ⟨_, _, ⟨_, _, ⟨_, _, ⟨_, _, ⟨_, _, ⟨_, h1, rfl⟩, h2, rfl⟩, h3, rfl⟩,
      h4, rfl⟩, h5, rfl⟩, h6, rfl⟩, h7, rfl⟩, h8, rfl⟩, h9, ?_⟩
    rw [← hgiven]

theorem slot_congr {α : Type} {fields others : List (String × Given)} {name : String}
    (h : Entries.get? fields name = Entries.get? others name) (check : Given → Checked α) :
    slot fields name check = slot others name check := by
  unfold slot
  rw [h]

theorem slot_none {α : Type} {fields : List (String × Given)} {name : String}
    (h : Entries.get? fields name = none) (check : Given → Checked α) :
    slot fields name check = .ok .unset := by
  unfold slot
  rw [h]

/-- A slot for something that is given holds what it is read as. -/
theorem slot_some {α : Type} {fields : List (String × Given)} {name : String} {v : Given}
    {check : Given → Checked α} {s : Slot α} (h : Entries.get? fields name = some v)
    (hv : v.isNull = false) (hs : slot fields name check = .ok s) :
    ∃ a, check v = .ok a ∧ s = .filled a := by
  unfold slot at hs
  rw [h] at hs
  obtain ⟨value, hvalue, rfl⟩ := Outcome.map_ok.mp hs
  have hopt : Check.optional check v = (check v).map some := by
    cases v <;> first | rfl | simp [Value.isNull] at hv
  rw [Checked.named_ok, hopt] at hvalue
  obtain ⟨a, ha, rfl⟩ := Outcome.map_ok.mp hvalue
  exact ⟨a, ha, rfl⟩

theorem field_congr {α : Type} {fields others : List (String × Given)} {name : String}
    (h : Entries.get? fields name = Entries.get? others name) (check : Given → Checked α)
    (default : α) :
    Check.field fields name check default = Check.field others name check default := by
  unfold Check.field
  rw [h]

/-- **Fields that differ in the choice of tools make options that differ in nothing else.** -/
theorem ofFields_plain {family : Family} {fields others : List (String × Given)} {o : Options}
    (hothers : ∀ name, name ≠ "tool_choice" →
      Entries.get? others name = Entries.get? fields name)
    (hchoice : Entries.get? others "tool_choice" = some (.str "none"))
    (h : ofFields family fields = .ok o) :
    ∃ o', ofFields family others = .ok o' ∧
      o' = { o with toolChoice := .filled .off, propertiesGiven := o'.propertiesGiven } := by
  unfold ofFields at h ⊢
  rw [hothers "tools" (by decide)]
  split at h
  · simp at h
  · rename_i hfault
    have hread : read family fields = .ok o := by
      revert h
      cases read family fields <;> simp [Checked.orInvalid]
    obtain ⟨h1, h2, h3, h4, h5, -, h7, h8, h9, h10, -⟩ := read_ok.mp hread
    have hoff : slot others "tool_choice" ToolMode.ofGiven = .ok (.filled .off) := by
      unfold slot
      rw [hchoice]
      rfl
    refine ⟨{ o with toolChoice := .filled .off
                     propertiesGiven := Entries.has others "additional_properties" }, ?_, rfl⟩
    have hread' : read family others = .ok { o with
        toolChoice := .filled .off
        propertiesGiven := Entries.has others "additional_properties" } := by
      refine read_ok.mpr ⟨?_, ?_, ?_, ?_, ?_, hoff, ?_, ?_, ?_, h10, rfl⟩
      · rwa [slot_congr (hothers "model_id" (by decide))]
      · rwa [slot_congr (hothers "max_tokens" (by decide))]
      · rwa [slot_congr (hothers "temperature" (by decide))]
      · rwa [slot_congr (hothers "top_p" (by decide))]
      · rwa [slot_congr (hothers "stop" (by decide))]
      · rwa [slot_congr (hothers "tools" (by decide))]
      · rwa [field_congr (hothers "additional_properties" (by decide))]
      · rwa [slot_congr (hothers "top_k" (by decide))]
    rw [hread']
    rfl

theorem ofFields_ok {family : Family} {fields : List (String × Given)} {o : Options}
    (h : ofFields family fields = .ok o) : read family fields = .ok o := by
  unfold ofFields at h
  split at h
  · simp at h
  · revert h
    cases read family fields <;> simp [Checked.orInvalid]

end Options

namespace ChatModel

/-! ### The options in force -/

/-- The named arguments that set options, found one by one. -/
theorem get?_overrides {arguments named : List (String × Given)}
    (hd : (arguments.map Prod.fst).Nodup) (h : overrides arguments = .ok named) (name : String) :
    Entries.get? named name =
      if name = "chat_options" then none
      else if name = "stop" then
        (stopArgument ((Entries.get? arguments "stop").getD .null)).toOption.filter (!·.isNull)
      else (Entries.get? arguments name).filter (!·.isNull) := by
  obtain ⟨stop, hstop, h⟩ := Outcome.bind_ok.mp h
  obtain rfl := Except.ok.inj h
  rw [hstop, Entries.get?_filter (Entries.nodup_put hd _ _), Entries.get?_put]
  by_cases hoptions : name = "chat_options"
  · subst hoptions
    simp
  · by_cases hs : name = "stop"
    · subst hs
      simp [Except.toOption]
    · rw [if_neg hoptions, if_neg hs, if_neg (Ne.symm hs)]
      congr 1
      funext v
      simp [hoptions]

/-- The options in force are those of the layers below, covered by the named arguments if any of
them sets an option. -/
theorem options_ok {m : ChatModel} {arguments : List (String × Given)} {o : Options} :
    m.options arguments = .ok o ↔
      ∃ named layer, overrides arguments = .ok named ∧ layerOf arguments = .ok layer ∧
        ((named = [] ∧ o = m.defaults.mergeOption layer) ∨
          (named ≠ [] ∧ ∃ top,
            requesting (Options.ofFields (m.defaults.mergeOption layer).family named) = .ok top ∧
            o = (m.defaults.mergeOption layer).merge top)) := by
  unfold options
  constructor
  · intro h
    obtain ⟨named, hnamed, h⟩ := Outcome.bind_ok.mp h
    obtain ⟨layer, hlayer, h⟩ := Outcome.bind_ok.mp h
    refine ⟨named, layer, hnamed, hlayer, ?_⟩
    by_cases hempty : named = []
    · subst hempty
      exact .inl ⟨rfl, (Except.ok.inj h).symm⟩
    · rw [if_neg (by simpa using hempty)] at h
      obtain ⟨top, htop, h⟩ := Outcome.bind_ok.mp h
      exact .inr ⟨hempty, top, htop, (Except.ok.inj h).symm⟩
  · rintro ⟨named, layer, hnamed, hlayer, h⟩
    rw [hnamed, Outcome.ok_bind, hlayer, Outcome.ok_bind]
    rcases h with ⟨rfl, rfl⟩ | ⟨hne, top, htop, rfl⟩
    · rfl
    · rw [if_neg (by simpa using hne), htop]
      rfl

theorem requesting_ok {α : Type} {x : Except Fault α} {a : α} :
    requesting x = .ok a ↔ x = .ok a := by
  unfold requesting
  cases x with
  | ok b => simp
  | error f => by_cases h : f.isBadValue <;> simp [h]

/-- **Asking for a plain answer switches tools off and changes no other option.** -/
theorem options_plain {m : ChatModel} {arguments : List (String × Given)} {o : Options}
    (hd : (arguments.map Prod.fst).Nodup) (h : m.options arguments = .ok o) :
    m.options (Client.plain arguments) = .ok o.plain := by
  obtain ⟨named, layer, hnamed, hlayer, h⟩ := options_ok.mp h
  obtain ⟨stop, hstop, -⟩ := Outcome.bind_ok.mp hnamed
  have hget (name : String) : Entries.get? (Client.plain arguments) name =
      if "tool_choice" = name then some (.str "none") else Entries.get? arguments name :=
    Entries.get?_put _ _ _ _
  -- The new named arguments are the old ones with the choice written over.
  obtain ⟨named', hnamed'⟩ : ∃ named', overrides (Client.plain arguments) = .ok named' := by
    unfold overrides
    rw [hget, if_neg (by decide), hstop]
    exact ⟨_, rfl⟩
  have hdp : ((Client.plain arguments).map Prod.fst).Nodup := Entries.nodup_put hd _ _
  have hchoice : Entries.get? named' "tool_choice" = some (.str "none") := by
    rw [get?_overrides hdp hnamed', if_neg (by decide), if_neg (by decide), hget, if_pos rfl]
    rfl
  have hothers : ∀ name, name ≠ "tool_choice" →
      Entries.get? named' name = Entries.get? named name := by
    intro name hne
    rw [get?_overrides hdp hnamed', get?_overrides hd hnamed, hget "stop", hget name,
      if_neg (show "tool_choice" ≠ "stop" by decide), if_neg (Ne.symm hne)]
  have hne' : named' ≠ [] := by
    rintro rfl
    simp at hchoice
  have hlayer' : layerOf (Client.plain arguments) = .ok layer := by
    unfold layerOf at hlayer ⊢
    rw [hget, if_neg (by decide)]
    exact hlayer
  refine options_ok.mpr ⟨named', layer, hnamed', hlayer', .inr ⟨hne', ?_⟩⟩
  rcases h with ⟨rfl, rfl⟩ | ⟨-, top, htop, rfl⟩
  · have hnone : Options.ofFields (m.defaults.mergeOption layer).family [] =
        .ok { family := (m.defaults.mergeOption layer).family } := by
      unfold Options.ofFields Options.read
      cases (m.defaults.mergeOption layer).family.hasTopK <;> rfl
    obtain ⟨top', htop', heq⟩ := Options.ofFields_plain hothers hchoice hnone
    refine ⟨top', requesting_ok.mpr htop', ?_⟩
    rw [heq]
    simp [Options.plain, Options.merge, Slot.coveredBy, Family.within, Entries.union]
  · obtain ⟨top', htop', heq⟩ :=
      Options.ofFields_plain hothers hchoice (requesting_ok.mp htop)
    refine ⟨top', requesting_ok.mpr htop', ?_⟩
    rw [heq]
    rfl

end ChatModel

/-! ### The tools that are run -/

namespace ToolItem

/-- The tool that can be run, if there is one. -/
def tool? : ToolItem → Option Tool
  | .tool t => some t
  | .described _ => none

theorem toolsOf_eq (o : Options) : Client.toolsOf o = o.tools.value?.map (·.map given) := by
  unfold Client.toolsOf
  cases o.tools.value? with
  | none => rfl
  | some items =>
      exact congrArg some (List.map_congr_left fun item _ => by cases item <;> rfl)

theorem bind_toolsOf (layer : Option Options) :
    layer.bind Client.toolsOf = (layer.bind fun o => o.tools.value?).map (·.map given) := by
  cases layer with
  | none => rfl
  | some o => exact toolsOf_eq o

/-- An offered tool is read back from the data it becomes. -/
theorem ofGiven_given (item : ToolItem) : ofGiven item.given = .ok item := by
  cases item with
  | tool t => rfl
  | described entries =>
      show Except.ok (described (Given.documents (Value.bindEntries _ entries))) = _
      rw [Given.documents_wrapped]

theorem mapM_ofGiven_given (items : List ToolItem) :
    (items.map given).mapM ofGiven = .ok items := by
  induction items with
  | nil => rfl
  | cons item rest ih =>
      rw [List.map_cons, Outcome.mapM_cons, ofGiven_given, Outcome.ok_bind, ih]
      rfl

/-- What is read as an offered tool is run as the same tool. -/
theorem ofGiven?_eq {v : Given} {item : ToolItem} (h : ofGiven v = .ok item) :
    Tool.ofGiven? v = .ok item.tool? := by
  unfold ofGiven at h
  split at h
  · obtain rfl := Except.ok.inj h
    rfl
  · rename_i f
    obtain ⟨t, ht, rfl⟩ := Outcome.map_ok.mp h
    show (Tool.ofFunction f).map some = _
    rw [ht]
    rfl
  · obtain rfl := Except.ok.inj h
    rfl
  · simp at h

theorem byName_eq {vs : List Given} {items : List ToolItem} (h : vs.mapM ofGiven = .ok items) :
    Tool.byName vs = .ok (Entries.ofPairs ((items.filterMap tool?).map fun t => (t.name, t))) := by
  have htools : vs.mapM Tool.ofGiven? = .ok (items.map tool?) := by
    rw [Outcome.mapM_ok, List.forall₂_map_right_iff]
    exact (Outcome.mapM_ok.mp h).imp fun _ _ => ofGiven?_eq
  unfold Tool.byName
  rw [htools, Outcome.ok_bind, List.filterMap_map]
  rfl

end ToolItem

namespace ChatModel

/-- The model as a client that runs no calls. -/
def bare (m : ChatModel) : Client :=
  { defaults := some m.defaults, respond := m.respond, stream := m.stream }

/-- The client of a model is one with the usual limit, a case of what holds for any. -/
theorem client_eq (m : ChatModel) : m.client = Client.looped m.bare := rfl

/-- Whether arguments put an empty list of tools over the tools of a lower layer. -/
def clearsTools (arguments : List (String × Given)) : Bool :=
  let direct := (Entries.get? arguments "tools").getD .null
  if direct.isNull then
    match (Client.optionsOf? (Entries.get? arguments "chat_options")).bind Client.toolsOf with
    | some [] => true
    | _ => false
  else !direct.isSet

theorem layerOf_ok {arguments : List (String × Given)} {layer : Option Options}
    (h : layerOf arguments = .ok layer) :
    Client.optionsOf? (Entries.get? arguments "chat_options") = layer := by
  unfold layerOf at h
  cases hv : Entries.get? arguments "chat_options" with
  | none =>
      rw [hv] at h
      exact Except.ok.inj h
  | some v =>
      rw [hv] at h
      simp only [Option.getD_some] at h
      split at h
      · exact Except.ok.inj h
      · exact Except.ok.inj h
      · simp at h

/-- The tools in force are those named directly, or else those of the layers below. -/
theorem options_tools {m : ChatModel} {arguments : List (String × Given)} {o : Options}
    (hd : (arguments.map Prod.fst).Nodup) (h : m.options arguments = .ok o) :
    if ((Entries.get? arguments "tools").getD .null).isNull then
      o.tools = (m.defaults.mergeOption
        (Client.optionsOf? (Entries.get? arguments "chat_options"))).tools
    else ∃ items,
      ToolItem.listOfGiven ((Entries.get? arguments "tools").getD .null) = .ok items ∧
        o.tools = .filled items := by
  obtain ⟨named, layer, hnamed, hlayer, h⟩ := options_ok.mp h
  rw [layerOf_ok hlayer]
  have hget : Entries.get? named "tools" =
      if ((Entries.get? arguments "tools").getD .null).isNull then none
      else some ((Entries.get? arguments "tools").getD .null) := by
    rw [get?_overrides hd hnamed, if_neg (by decide), if_neg (by decide)]
    cases Entries.get? arguments "tools" with
    | none => rfl
    | some v => cases hv : v.isNull <;> simp [hv]
  generalize (Entries.get? arguments "tools").getD .null = direct at *
  by_cases hnull : direct.isNull = true
  · -- Nothing is named directly.
    rw [if_pos hnull] at hget ⊢
    rcases h with ⟨-, rfl⟩ | ⟨-, top, htop, rfl⟩
    · rfl
    · obtain ⟨-, -, -, -, -, -, htools, -⟩ := Options.read_ok.mp
        (Options.ofFields_ok (requesting_ok.mp htop))
      rw [Options.slot_none hget] at htools
      show Slot.coveredBy _ top.tools = _
      rw [← Except.ok.inj htools]
      rfl
  · rw [if_neg hnull] at hget ⊢
    rcases h with ⟨rfl, -⟩ | ⟨-, top, htop, rfl⟩
    · simp at hget
    · obtain ⟨-, -, -, -, -, -, htools, -⟩ := Options.read_ok.mp
        (Options.ofFields_ok (requesting_ok.mp htop))
      obtain ⟨items, hitems, hfilled⟩ := Options.slot_some hget (by simpa using hnull) htools
      refine ⟨items, hitems, ?_⟩
      show Slot.coveredBy _ top.tools = _
      rw [hfilled]
      rfl

theorem listOfGiven_ok {v : Given} {items : List ToolItem}
    (h : ToolItem.listOfGiven v = .ok items) :
    (match v with | .list vs => vs | v => [v]).mapM ToolItem.ofGiven = .ok items := by
  unfold ToolItem.listOfGiven at h
  dsimp only at h
  split at h
  · rename_i tools htools
    obtain rfl := Except.ok.inj h
    exact htools
  · simp [Checked.fail] at h

/-- **The tools picked to be run are those in force**, unless an empty list of them covers the
tools of a lower layer. -/
theorem tools_read {m : ChatModel} {arguments : List (String × Given)} {o : Options}
    (hd : (arguments.map Prod.fst).Nodup) (h : m.options arguments = .ok o)
    (hclear : clearsTools arguments = false) :
    (m.bare.tools arguments).mapM ToolItem.ofGiven = .ok (o.tools.value?.getD []) := by
  have htools := options_tools hd h
  unfold clearsTools at hclear
  unfold Client.tools
  dsimp only
  generalize (Entries.get? arguments "tools").getD .null = direct at *
  by_cases hnull : direct.isNull = true
  · simp only [hnull, if_true] at htools hclear
    have hunset : direct.isSet = false := by
      cases direct <;> first | rfl | simp [Value.isNull] at hnull
    rw [ToolItem.bind_toolsOf] at hclear ⊢
    rw [hunset, if_neg Bool.false_ne_true, htools, Options.tools_mergeOption]
    generalize (Client.optionsOf? (Entries.get? arguments "chat_options")).bind
      (fun o => o.tools.value?) = above at *
    cases above with
    | none =>
        show ((Client.toolsOf m.defaults).getD []).mapM ToolItem.ofGiven = _
        rw [ToolItem.toolsOf_eq, Option.none_or]
        cases m.defaults.tools.value? with
        | none => rfl
        | some items => exact ToolItem.mapM_ofGiven_given items
    | some items =>
        cases items with
        | nil => simp at hclear
        | cons item rest => exact ToolItem.mapM_ofGiven_given (item :: rest)
  · simp only [hnull] at htools hclear
    obtain ⟨items, hitems, heq⟩ := htools
    have hset : direct.isSet = true := by simpa using hclear
    rw [hset, heq]
    exact listOfGiven_ok hitems

/-- Where an empty list of tools covers those of a lower layer, no tool is in force. -/
theorem tools_cleared {m : ChatModel} {arguments : List (String × Given)} {o : Options}
    (hd : (arguments.map Prod.fst).Nodup) (h : m.options arguments = .ok o)
    (hclear : clearsTools arguments = true) :
    o.tools.value? = some [] ∨ o.tools.value? = some [.described []] := by
  have htools := options_tools hd h
  unfold clearsTools at hclear
  generalize (Entries.get? arguments "tools").getD .null = direct at *
  by_cases hnull : direct.isNull = true
  · simp only [hnull, if_true] at htools hclear
    rw [ToolItem.bind_toolsOf] at hclear
    rw [htools, Options.tools_mergeOption]
    generalize (Client.optionsOf? (Entries.get? arguments "chat_options")).bind
      (fun o => o.tools.value?) = above at *
    cases above with
    | none => simp at hclear
    | some items =>
        cases items with
        | nil => exact .inl rfl
        | cons item rest => simp at hclear
  · simp only [hnull] at htools hclear
    obtain ⟨items, hitems, heq⟩ := htools
    have hunset : direct.isSet = false := by simpa using hclear
    have hread := listOfGiven_ok hitems
    rw [heq]
    cases direct with
    | list vs =>
        obtain rfl : vs = [] := by simpa [Value.isSet] using hunset
        exact .inl (congrArg _ (Except.ok.inj hread).symm)
    | obj entries =>
        obtain rfl : entries = [] := by simpa [Value.isSet] using hunset
        exact .inr (congrArg _ (Except.ok.inj hread).symm)
    | null => simp [Value.isNull] at hnull
    | leaf a => simp [Value.isSet] at hunset
    | bool _ => cases hread
    | int _ => cases hread
    | float _ => cases hread
    | str _ => cases hread
    | bytes _ => cases hread
    | tuple _ => cases hread

end ChatModel

end Parley
