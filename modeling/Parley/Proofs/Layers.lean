/-
Layers of options.

The options in force come from four places: the named arguments of a request, the
options given with it, those given when the model was built, and those of its
family.  They are put together two at a time, and each time the result may belong
to another family; still the outcome is as if each field had been looked up from
the top down, and each named argument is a layer of its own.  A `Options.Field` is
what the fields have in common, so that all of them are argued about at once.

Arguments are refused exactly when one of them would be refused on its own.  What
they are refused with is a fault of the request, but for two faults that come
before or beside the reading of options: that of running through something given
as stop texts, and that of making a tool of a function, unless it is about a bad
value.
-/
import Parley.Proofs.Agreement
import Parley.Proofs.Dialogue

namespace Parley

namespace Options

/-! ### Fields -/

/-- A field of options that holds a value or none: all of them but the properties. -/
inductive Field : Type → Type where
  | modelId : Field String
  | maxTokens : Field Int
  | temperature : Field Float
  | topP : Field Float
  | stop : Field Stop
  | toolChoice : Field ToolMode
  | tools : Field (List ToolItem)
  | topK : Field Int

namespace Field

variable {α : Type}

/-- The name under which a field is given. -/
def name : Field α → String
  | modelId => "model_id"
  | maxTokens => "max_tokens"
  | temperature => "temperature"
  | topP => "top_p"
  | stop => "stop"
  | toolChoice => "tool_choice"
  | tools => "tools"
  | topK => "top_k"

/-- What is accepted for a field. -/
def check : Field α → Given → Checked α
  | modelId => Check.string
  | maxTokens => Check.positive
  | temperature => Check.probability
  | topP => Check.probability
  | stop => Stop.ofGiven
  | toolChoice => ToolMode.ofGiven
  | tools => ToolItem.listOfGiven
  | topK => Check.positive

/-- Whether the options of a family have a field. -/
def isOf (family : Family) : Field α → Bool
  | topK => family.hasTopK
  | _ => true

/-- A field of options. -/
def of : Field α → Options → Slot α
  | modelId, o => o.modelId
  | maxTokens, o => o.maxTokens
  | temperature, o => o.temperature
  | topP, o => o.topP
  | stop, o => o.stop
  | toolChoice, o => o.toolChoice
  | tools, o => o.tools
  | topK, o => o.topK

/-- A field as it is read; one that the family does not have is left alone. -/
def read (family : Family) (f : Field α) (fields : List (String × Given)) : Checked (Slot α) :=
  if f.isOf family then slot fields f.name f.check else .ok .unset

theorem of_merge (f : Field α) (under top : Options) :
    f.of (under.merge top) = (f.of under).coveredBy (f.of top) := by
  cases f <;> rfl

end Field

/-- The properties as they are read. -/
def readProperties (fields : List (String × Given)) : Checked Properties :=
  Check.field fields "additional_properties" Check.properties []

/-- **Options are what their fields are read as.** -/
theorem read_iff {family : Family} {fields : List (String × Given)} {o : Options} :
    read family fields = .ok o ↔
      (∀ {α : Type} (f : Field α), f.read family fields = .ok (f.of o)) ∧
      readProperties fields = .ok o.properties ∧ o.family = family ∧
      o.propertiesGiven = Entries.has fields "additional_properties" := by
  rw [read_ok]
  constructor
  · rintro ⟨h1, h2, h3, h4, h5, h6, h7, h8, h9, hfamily, hgiven⟩
    refine ⟨?_, h8, hfamily, hgiven⟩
    intro α f
    cases f <;> assumption
  · rintro ⟨h, hproperties, hfamily, hgiven⟩
    exact ⟨h .modelId, h .maxTokens, h .temperature, h .topP, h .stop, h .toolChoice, h .tools,
      hproperties, h .topK, hfamily, hgiven⟩

/-- Options can be read when all their fields can. -/
theorem exists_read {family : Family} {fields : List (String × Given)}
    (h : ∀ {α : Type} (f : Field α), ∃ s, f.read family fields = .ok s)
    (hproperties : ∃ p, readProperties fields = .ok p) : ∃ o, read family fields = .ok o := by
  obtain ⟨modelId, h1⟩ := h .modelId
  obtain ⟨maxTokens, h2⟩ := h .maxTokens
  obtain ⟨temperature, h3⟩ := h .temperature
  obtain ⟨topP, h4⟩ := h .topP
  obtain ⟨stop, h5⟩ := h .stop
  obtain ⟨toolChoice, h6⟩ := h .toolChoice
  obtain ⟨tools, h7⟩ := h .tools
  obtain ⟨topK, h9⟩ := h .topK
  obtain ⟨properties, h8⟩ := hproperties
  exact ⟨{
    family, modelId, maxTokens, temperature, topP, stop, toolChoice, tools, topK, properties
    propertiesGiven := Entries.has fields "additional_properties" },
    read_ok.mpr ⟨h1, h2, h3, h4, h5, h6, h7, h8, h9, rfl, rfl⟩⟩

/-- The fault that making tools of functions comes to, unless it is about a bad value. -/
def toolFault? (fields : List (String × Given)) : Option Fault :=
  (Entries.get? fields "tools").bind ToolItem.fault?

/-- What comes of making the tools that are given. -/
def makeTools (fields : List (String × Given)) : Except Fault Unit :=
  (toolFault? fields).elim (.ok ()) .error

theorem makeTools_ok {fields : List (String × Given)} :
    (∃ u, makeTools fields = .ok u) ↔ toolFault? fields = none := by
  unfold makeTools
  cases toolFault? fields <;> simp

theorem ofFields_iff {family : Family} {fields : List (String × Given)} {o : Options} :
    ofFields family fields = .ok o ↔ toolFault? fields = none ∧ read family fields = .ok o := by
  constructor
  · intro h
    refine ⟨?_, ofFields_ok h⟩
    unfold ofFields at h
    split at h
    · cases h
    · assumption
  · rintro ⟨hfault, hread⟩
    have hnone : (Entries.get? fields "tools").bind ToolItem.fault? = none := hfault
    unfold ofFields
    rw [hnone, hread]
    rfl

theorem ofFields_error {family : Family} {fields : List (String × Given)} {f : Fault}
    (h : ofFields family fields = .error f) :
    toolFault? fields = some f ∨ ∃ issues, f = .invalid family.optionsName issues := by
  unfold ofFields at h
  split at h
  · rename_i g hg
    exact .inl (hg.trans (congrArg some (Except.error.inj h)))
  · cases hread : read family fields with
    | ok o =>
        rw [hread] at h
        cases h
    | error issues =>
        rw [hread] at h
        exact .inr ⟨issues, (Except.error.inj h).symm⟩

theorem Field.read_of {α : Type} (f : Field α) {family : Family}
    {fields : List (String × Given)} {o : Options} (h : ofFields family fields = .ok o) :
    f.read family fields = .ok (f.of o) :=
  (read_iff.mp (ofFields_ok h)).1 f

theorem readProperties_of {family : Family} {fields : List (String × Given)} {o : Options}
    (h : ofFields family fields = .ok o) : readProperties fields = .ok o.properties :=
  (read_iff.mp (ofFields_ok h)).2.1

theorem family_of {family : Family} {fields : List (String × Given)} {o : Options}
    (h : ofFields family fields = .ok o) : o.family = family :=
  (read_iff.mp (ofFields_ok h)).2.2.1

/-- Arguments make options when tools can be made of them and every field can be read. -/
theorem exists_ofFields_iff {family : Family} {fields : List (String × Given)} :
    (∃ o, ofFields family fields = .ok o) ↔
      (∃ u, makeTools fields = .ok u) ∧
      (∀ {α : Type} (f : Field α), ∃ s, f.read family fields = .ok s) ∧
      ∃ p, readProperties fields = .ok p := by
  rw [makeTools_ok]
  constructor
  · rintro ⟨o, ho⟩
    exact ⟨(ofFields_iff.mp ho).1, fun f => ⟨_, f.read_of ho⟩, _, readProperties_of ho⟩
  · rintro ⟨hnone, hfields, hproperties⟩
    obtain ⟨o, ho⟩ := exists_read hfields hproperties
    exact ⟨o, ofFields_iff.mpr ⟨hnone, ho⟩⟩

/-- A field that nothing is given for is left alone. -/
theorem Field.unset_of {α : Type} (f : Field α) {family : Family}
    {fields : List (String × Given)} {o : Options} (h : ofFields family fields = .ok o)
    (hget : Entries.get? fields f.name = none) : f.of o = .unset := by
  have hread := f.read_of h
  unfold Field.read at hread
  rw [slot_none hget, ite_self] at hread
  exact (Except.ok.inj hread).symm

/-! ### Layers -/

/-- Properties no key of which is written twice. -/
def Distinct (o : Options) : Prop := (o.properties.map Prod.fst).Nodup

/-- Options that are put together from layers, the topmost first: every field has the first value
there is, and properties are looked up from the top down. -/
structure Layered (layers : List Options) (o : Options) : Prop where
  first : ∀ {α : Type} (f : Field α), (f.of o).value? = layers.findSome? fun l => (f.of l).value?
  distinct : (∀ l ∈ layers, l.Distinct) → o.Distinct
  properties : (∀ l ∈ layers, l.Distinct) → ∀ key,
    Entries.get? o.properties key = layers.findSome? fun l => Entries.get? l.properties key

namespace Layered

variable {layers tops : List Options} {under top : Options}

theorem one (o : Options) : Layered [o] o := by
  refine ⟨fun f => ?_, fun h => h o (by simp), fun _ key => ?_⟩
  · cases h : (f.of o).value? <;> simp [h]
  · cases h : Entries.get? o.properties key <;> simp [h]

/-- **What is laid over options adds its layers on top.** -/
theorem merge (h : Layered layers under) (htop : Layered tops top) :
    Layered (tops ++ layers) (under.merge top) := by
  refine ⟨fun f => ?_, fun hd => ?_, fun hd key => ?_⟩
  · rw [f.of_merge, Slot.value?_coveredBy, htop.first, h.first, List.findSome?_append]
  · exact Entries.nodup_union (h.distinct fun l hl => hd l (List.mem_append_right _ hl)) _
  · have htops : ∀ l ∈ tops, l.Distinct := fun l hl => hd l (List.mem_append_left _ hl)
    rw [List.findSome?_append, ← htop.properties htops,
      ← h.properties fun l hl => hd l (List.mem_append_right _ hl)]
    exact Entries.get?_union_or (htop.distinct htops) _ key

theorem mergeOption (h : Layered layers under) (layer : Option Options) :
    Layered (layer.toList ++ layers) (under.mergeOption layer) := by
  cases layer with
  | none => exact h
  | some top => exact h.merge (.one top)

end Layered

/-! ### Named arguments as layers

What is read of one field depends on what is given under its name and on nothing
else.  So arguments with distinct names can be read one at a time.
-/

/-- A reader of fields that looks at one name and does without it. -/
structure LooksAt {ε β : Type} (name : String) (default : β)
    (reader : List (String × Given) → Except ε β) : Prop where
  congr : ∀ {fields others : List (String × Given)},
    Entries.get? fields name = Entries.get? others name → reader fields = reader others
  absent : reader [] = .ok default

theorem Field.looksAt {α : Type} (family : Family) (f : Field α) :
    LooksAt f.name .unset (f.read family) := by
  constructor
  · intro fields others h
    unfold Field.read
    rw [slot_congr h]
  · unfold Field.read
    rw [slot_none (Entries.get?_nil _), ite_self]

theorem looksAt_properties : LooksAt "additional_properties" [] readProperties :=
  ⟨fun h => field_congr h Check.properties [], rfl⟩

theorem looksAt_tools : LooksAt "tools" () makeTools := by
  constructor
  · intro fields others h
    unfold makeTools toolFault?
    rw [h]
  · rfl

namespace LooksAt

variable {ε β : Type} {name : String} {default : β}
  {reader : List (String × Given) → Except ε β} {named : List (String × Given)}

theorem one_eq (h : LooksAt name default reader) (hd : (named.map Prod.fst).Nodup)
    {e : String × Given} (he : e ∈ named) (hname : e.1 = name) : reader [e] = reader named := by
  apply h.congr
  rw [Entries.get?_cons, if_pos hname, ← hname, Entries.get?_of_mem hd he]

theorem other_eq (h : LooksAt name default reader) {e : String × Given} (hname : e.1 ≠ name) :
    reader [e] = .ok default := by
  rw [← h.absent]
  apply h.congr
  rw [Entries.get?_cons, if_neg hname]

theorem cons_eq (h : LooksAt name default reader) {e : String × Given} (hname : e.1 ≠ name)
    (rest : List (String × Given)) : reader (e :: rest) = reader rest := by
  apply h.congr
  rw [Entries.get?_cons, if_neg hname]

/-- Arguments can be read together when each can be read alone. -/
theorem accepts_iff (h : LooksAt name default reader) (hd : (named.map Prod.fst).Nodup) :
    (∃ b, reader named = .ok b) ↔ ∀ e ∈ named, ∃ b, reader [e] = .ok b := by
  constructor
  · rintro ⟨b, hb⟩ e he
    by_cases hname : e.1 = name
    · exact ⟨b, (h.one_eq hd he hname).trans hb⟩
    · exact ⟨default, h.other_eq hname⟩
  · intro hall
    cases hget : Entries.get? named name with
    | none =>
        refine ⟨default, ?_⟩
        rw [← h.absent]
        exact h.congr hget
    | some v =>
        have hmem := Entries.mem_of_get? hget
        obtain ⟨b, hb⟩ := hall _ hmem
        exact ⟨b, (h.one_eq hd hmem rfl).symm.trans hb⟩

end LooksAt

variable {family : Family} {named : List (String × Given)} {singles : List Options}

/-- **Named arguments are accepted together exactly when each of them is on its own.** -/
theorem accepted_iff (hd : (named.map Prod.fst).Nodup) :
    (∃ o, ofFields family named = .ok o) ↔ ∀ e ∈ named, ∃ one, ofFields family [e] = .ok one := by
  rw [exists_ofFields_iff]
  constructor
  · rintro ⟨htools, hfields, hproperties⟩ e he
    refine exists_ofFields_iff.mpr ⟨?_, fun f => ?_, ?_⟩
    · exact (looksAt_tools.accepts_iff hd).mp htools e he
    · exact ((f.looksAt family).accepts_iff hd).mp (hfields f) e he
    · exact (looksAt_properties.accepts_iff hd).mp hproperties e he
  · intro hall
    have hone (e : String × Given) (he : e ∈ named) := exists_ofFields_iff.mp (hall e he)
    refine ⟨?_, fun f => ?_, ?_⟩
    · exact (looksAt_tools.accepts_iff hd).mpr fun e he => (hone e he).1
    · exact ((f.looksAt family).accepts_iff hd).mpr fun e he => (hone e he).2.1 f
    · exact (looksAt_properties.accepts_iff hd).mpr fun e he => (hone e he).2.2

/-- Options of which each is one of the named arguments, read on its own. -/
abbrev Singles (family : Family) (named : List (String × Given)) (singles : List Options) : Prop :=
  List.Forall₂ (fun e one => ofFields family [e] = .ok one) named singles

/-- What a reader makes of all arguments is the first thing that it makes of one of them. -/
theorem findSome?_singles {β γ : Type} {name : String} {default : β}
    {reader : List (String × Given) → Checked β} {of : Options → β} (pick : β → Option γ)
    (h : LooksAt name default reader) (hpick : pick default = none)
    (hof : ∀ fields o, ofFields family fields = .ok o → reader fields = .ok (of o))
    (hd : (named.map Prod.fst).Nodup) (hall : Singles family named singles) {b : β}
    (hb : reader named = .ok b) : pick b = singles.findSome? fun l => pick (of l) := by
  induction hall generalizing b with
  | nil =>
      rw [h.absent] at hb
      rw [← Except.ok.inj hb]
      exact hpick
  | @cons e one rest more he hrest ih =>
      rw [List.map_cons, List.nodup_cons] at hd
      have hone := hof _ _ he
      rw [List.findSome?_cons]
      by_cases hname : e.1 = name
      · -- what is given under the name is this argument, and no other has a say
        have hlater : reader rest = .ok default := by
          rw [← h.absent]
          exact h.congr (Entries.get?_eq_none.mpr (hname ▸ hd.1))
        rw [← ih hd.2 hlater, hpick]
        have hsame : reader [e] = reader (e :: rest) := by
          apply h.congr
          rw [Entries.get?_cons, Entries.get?_cons, if_pos hname, if_pos hname]
        rw [← hsame, hone] at hb
        rw [← Except.ok.inj hb]
        cases pick (of one) <;> rfl
      · rw [h.other_eq hname] at hone
        rw [← Except.ok.inj hone, hpick]
        rw [h.cons_eq hname] at hb
        exact ih hd.2 hb

/-- **Named arguments make options as layers do, each of them being one.** -/
theorem layered_singles {top : Options} (hd : (named.map Prod.fst).Nodup)
    (hall : Singles family named singles) (htop : ofFields family named = .ok top) :
    Layered singles top := by
  refine ⟨fun f => ?_, fun hdistinct => ?_, fun _ key => ?_⟩
  · exact findSome?_singles Slot.value? (f.looksAt family) rfl (fun _ _ => f.read_of) hd hall
      (f.read_of htop)
  · -- the properties are none, or those of one of the arguments
    have hfirst := findSome?_singles (fun p => if p.isEmpty then none else some p)
      looksAt_properties rfl (fun _ _ => readProperties_of) hd hall (readProperties_of htop)
    unfold Distinct
    by_cases hempty : top.properties.isEmpty = true
    · rw [List.isEmpty_iff.mp hempty]
      exact List.nodup_nil
    · rw [if_neg hempty] at hfirst
      obtain ⟨l, hl, hpick⟩ := List.exists_of_findSome?_eq_some hfirst.symm
      split at hpick
      · cases hpick
      · rw [← Option.some.inj hpick]
        exact hdistinct l hl
  · exact findSome?_singles (fun p => Entries.get? p key) looksAt_properties rfl
      (fun _ _ => readProperties_of) hd hall (readProperties_of htop)

end Options

/-! ### The options of a request -/

theorem Family.hasTopK_within {a b : Family} (h : a.within b = true) (hb : b.hasTopK = true) :
    a.hasTopK = true := by
  revert h hb
  cases a <;> cases b <;> decide

/-- A field that the options below have is not lost to what is laid over them. -/
theorem Options.hasTopK_mergeOption {under : Options} (h : under.family.hasTopK = true)
    (layer : Option Options) : (under.mergeOption layer).family.hasTopK = true := by
  cases layer with
  | none => exact h
  | some top =>
      show (if top.family.within under.family then top.family else under.family).hasTopK = true
      by_cases hwithin : top.family.within under.family = true
      · rw [if_pos hwithin]
        exact Family.hasTopK_within hwithin h
      · rwa [if_neg hwithin]

/-- Options of the same family that are laid over others leave the family as it is. -/
theorem Options.family_merge {under top : Options} (h : top.family = under.family) :
    (under.merge top).family = under.family := by
  show (if top.family.within under.family then top.family else under.family) = under.family
  rw [h, ite_self]

namespace ChatModel

variable {m : ChatModel} {arguments : List (String × Given)} {above : Option Options}

theorem requesting_error {α : Type} {x : Except Fault α} {f : Fault}
    (h : requesting x = .error f) :
    ∃ g, x = .error g ∧ ((g.isBadValue = true ∧
      f = .raised .request ("Invalid chat options: " ++ g.message) (some g)) ∨
      (g.isBadValue = false ∧ f = g)) := by
  unfold requesting at h
  cases x with
  | ok a => cases h
  | error g =>
      refine ⟨g, rfl, ?_⟩
      cases hbad : g.isBadValue with
      | true =>
          dsimp only at h
          rw [hbad, if_pos rfl] at h
          exact .inl ⟨rfl, (Except.error.inj h).symm⟩
      | false =>
          dsimp only at h
          rw [hbad, if_neg Bool.false_ne_true] at h
          exact .inr ⟨rfl, (Except.error.inj h).symm⟩

theorem nodup_overrides {named : List (String × Given)} (hd : (arguments.map Prod.fst).Nodup)
    (h : overrides arguments = .ok named) : (named.map Prod.fst).Nodup := by
  obtain ⟨stop, -, h⟩ := Outcome.bind_ok.mp h
  rw [← Except.ok.inj h]
  exact (Entries.nodup_put hd "stop" stop).sublist (List.filter_sublist.map Prod.fst)

/-- Nothing but running through the stop texts can go wrong before arguments are read. -/
theorem overrides_error {f : Fault} (h : overrides arguments = .error f) :
    stopArgument ((Entries.get? arguments "stop").getD .null) = .error f := by
  unfold overrides at h
  cases hstop : stopArgument ((Entries.get? arguments "stop").getD .null) with
  | error g =>
      rw [hstop] at h
      rw [Except.error.inj h]
  | ok stop =>
      rw [hstop] at h
      cases h

/-- The fault that options are refused with: one of the request that names what was wrong, or that
of running through the stop texts, or that of making a tool of a function. -/
def RefusedWith (arguments : List (String × Given)) (f : Fault) : Prop :=
  (∃ cause, cause.isBadValue = true ∧
    f = .raised .request ("Invalid chat options: " ++ cause.message) (some cause)) ∨
  stopArgument ((Entries.get? arguments "stop").getD .null) = .error f ∨
  ∃ v, Entries.get? arguments "tools" = some v ∧ ToolItem.fault? v = some f

/-- How the options of a request come from its named arguments, from the options `above` that are
given with it, and from the layers `below` of the model. -/
structure OptionsPrecedence (m : ChatModel) (arguments : List (String × Given))
    (above : Option Options) (below : List Options) : Prop where
  /-- There are options exactly when each of the named arguments is accepted on its own. -/
  accepted : (∃ o, m.options arguments = .ok o) ↔
    ∃ named, overrides arguments = .ok named ∧
      ∀ e ∈ named, ∃ one, Options.ofFields (m.defaults.mergeOption above).family [e] = .ok one
  /-- The options are those of the layers, and belong to a family that has all fields. -/
  layered : ∀ o, m.options arguments = .ok o →
    ∃ named singles, overrides arguments = .ok named ∧ Options.Singles o.family named singles ∧
      Options.Layered (singles ++ above.toList ++ below) o ∧ o.family.hasTopK = true
  /-- What is refused is refused with a known fault. -/
  refused : ∀ f, m.options arguments = .error f → RefusedWith arguments f
  /-- What is refused leaves everything as it was, whichever way it was asked for. -/
  unsent : ∀ f, m.options arguments = .error f → ∀ messages s,
    m.respond messages arguments s = (.error (.fault f), s) ∧
    m.stream messages arguments s = (.error (.fault f), s) ∧
    ∃ g, m.client.respond messages arguments s = (.error (.fault g), s) ∧
      m.client.stream messages arguments s = (.error (.fault g), s)

theorem refusedWith_of_options (hd : (arguments.map Prod.fst).Nodup)
    (habove : layerOf arguments = .ok above) {f : Fault} (h : m.options arguments = .error f) :
    RefusedWith arguments f := by
  unfold options at h
  cases hnamed : overrides arguments with
  | error g =>
      rw [hnamed] at h
      obtain rfl := Except.error.inj h
      exact .inr (.inl (overrides_error hnamed))
  | ok named =>
      rw [hnamed, Outcome.ok_bind, habove, Outcome.ok_bind] at h
      by_cases hempty : named.isEmpty = true
      · rw [if_pos hempty] at h
        cases h
      · rw [if_neg hempty] at h
        cases htop : requesting
            (Options.ofFields (m.defaults.mergeOption above).family named) with
        | ok top =>
            rw [htop] at h
            cases h
        | error k =>
            rw [htop] at h
            obtain rfl := Except.error.inj h
            obtain ⟨g, hg, hcases⟩ := requesting_error htop
            rcases hcases with ⟨hbad, rfl⟩ | ⟨hgood, rfl⟩
            · exact .inl ⟨g, hbad, rfl⟩
            · rcases Options.ofFields_error hg with hfault | ⟨issues, rfl⟩
              · obtain ⟨v, hv, hfault⟩ := Option.bind_eq_some_iff.mp hfault
                rw [get?_overrides hd hnamed, if_neg (by decide), if_neg (by decide)] at hv
                exact .inr (.inr ⟨v, (Option.filter_eq_some_iff.mp hv).1, hfault⟩)
              · cases hgood

/-- Asking with options that are refused leaves everything as it was. -/
theorem unsent_of_options {f : Fault} (h : m.options arguments = .error f) (messages : List Given)
    (s : Session) :
    m.respond messages arguments s = (.error (.fault f), s) ∧
      m.stream messages arguments s = (.error (.fault f), s) := by
  have hprepared : m.prepared messages arguments = ([], .error f) := by
    unfold prepared
    rw [h]
  have hrespond := respond_unprepared (congrArg Prod.snd hprepared) s
  have hstream := stream_unprepared (congrArg Prod.snd hprepared) s
  rw [hprepared, List.append_nil] at hrespond hstream
  exact ⟨hrespond, hstream⟩

theorem settingUp_ok {α : Type} {name : String} {x : Except Fault α} {a : α}
    (h : settingUp name x = .ok a) : x = .ok a := by
  unfold settingUp at h
  split at h
  · exact h
  · split at h <;> cases h

/-- A model that is made has the options of its family, with those it was given laid over them, and
the identifier that it was given, or else that of its options or of its family. -/
theorem make_ok {family : Family} {modelId : Option String} {layer : Option Options}
    {policy : Policy} {name : String} {own : List (String × Given)}
    (h : make family modelId layer policy name own = .ok m) :
    ∃ start, Options.ofFields family own = .ok start ∧ m = {
      name, family, policy
      defaults := start.mergeOption layer
      modelId := ((nonEmpty? modelId).or
        (nonEmpty? (start.mergeOption layer).modelId.value?)).or family.defaultModelId? } := by
  obtain ⟨start, hstart, h⟩ := Outcome.bind_ok.mp h
  exact ⟨start, settingUp_ok hstart, (Except.ok.inj h).symm⟩

/-- A client is refused what its model refuses, or is refused earlier. -/
theorem unsent_of_client {f : Fault} (h : m.options arguments = .error f) (messages : List Given)
    (s : Session) :
    ∃ g, m.client.respond messages arguments s = (.error (.fault g), s) ∧
      m.client.stream messages arguments s = (.error (.fault g), s) := by
  rw [client_eq]
  by_cases henters : Client.misnamed? arguments = none ∧
      ∃ vs, Message.prepare (.list messages) = .ok vs
  · obtain ⟨hnamed, vs, hvs⟩ := henters
    obtain ⟨hrespond, hstream⟩ := unsent_of_options h vs s
    refine ⟨f, ?_, ?_⟩
    · rw [Client.respond_looped hnamed hvs]
      exact Client.respondFrom_error (c := m.bare) (n := 9) hrespond
    · rw [Client.stream_looped hnamed hvs]
      exact Client.streamFrom_error (c := m.bare) (n := 9) hstream
  · have hrefused : Client.misnamed? arguments ≠ none ∨
        ∀ vs, Message.prepare (.list messages) ≠ .ok vs := by
      by_cases hnamed : Client.misnamed? arguments = none
      · exact .inr fun vs hvs => henters ⟨hnamed, vs, hvs⟩
      · exact .inl hnamed
    obtain ⟨g, hg⟩ := Client.looped_refused m.bare Client.defaultRounds hrefused
    exact ⟨g, hg s⟩

/-- What lies below a request is put together as a model's own options are. -/
theorem optionsPrecedence_of_layered {below : List Options} (hd : (arguments.map Prod.fst).Nodup)
    (habove : layerOf arguments = .ok above) (hbelow : Options.Layered below m.defaults)
    (htopK : m.defaults.family.hasTopK = true) : m.OptionsPrecedence arguments above below := by
  have hbase := hbelow.mergeOption above
  have hbaseTopK := Options.hasTopK_mergeOption htopK above
  refine ⟨⟨?_, ?_⟩, ?_, fun f hf => refusedWith_of_options hd habove hf, fun f hf messages s => ?_⟩
  · rintro ⟨o, ho⟩
    obtain ⟨named, layer, hnamed, hlayer, hcases⟩ := options_ok.mp ho
    obtain rfl := Except.ok.inj (habove.symm.trans hlayer)
    refine ⟨named, hnamed, ?_⟩
    rcases hcases with ⟨rfl, -⟩ | ⟨-, top, htop, -⟩
    · simp
    · exact (Options.accepted_iff (nodup_overrides hd hnamed)).mp ⟨top, requesting_ok.mp htop⟩
  · rintro ⟨named, hnamed, hall⟩
    by_cases hempty : named = []
    · exact ⟨_, options_ok.mpr ⟨named, above, hnamed, habove, .inl ⟨hempty, rfl⟩⟩⟩
    · obtain ⟨top, htop⟩ := (Options.accepted_iff (nodup_overrides hd hnamed)).mpr hall
      exact ⟨_, options_ok.mpr
        ⟨named, above, hnamed, habove, .inr ⟨hempty, top, requesting_ok.mpr htop, rfl⟩⟩⟩
  · intro o ho
    obtain ⟨named, layer, hnamed, hlayer, hcases⟩ := options_ok.mp ho
    obtain rfl := Except.ok.inj (habove.symm.trans hlayer)
    rcases hcases with ⟨rfl, rfl⟩ | ⟨-, top, htop, rfl⟩
    · exact ⟨[], [], hnamed, .nil, hbase, hbaseTopK⟩
    · have hread := requesting_ok.mp htop
      have hnodup := nodup_overrides hd hnamed
      have hfamily := Options.family_merge (Options.family_of hread)
      obtain ⟨singles, hsingles⟩ := exists_forall₂ ((Options.accepted_iff hnodup).mp ⟨top, hread⟩)
      refine ⟨named, singles, hnamed, ?_, ?_, ?_⟩
      · rw [hfamily]
        exact hsingles.flip
      · rw [List.append_assoc]
        exact hbase.merge (Options.layered_singles hnodup hsingles.flip hread)
      · rwa [hfamily]
  · obtain ⟨hrespond, hstream⟩ := unsent_of_options hf messages s
    exact ⟨hrespond, hstream, unsent_of_client hf messages s⟩

/-- **Options are put together layer by layer**, and arguments are refused exactly when one of them
would be. -/
theorem options_precedence_of_make {family : Family} {modelId : Option String}
    {layer : Option Options} {policy : Policy} (hfamily : family ≠ .general)
    (hm : make family modelId layer policy = .ok m) (hd : (arguments.map Prod.fst).Nodup)
    (habove : layerOf arguments = .ok above) :
    ∃ start, Options.ofFields family family.defaultFields = .ok start ∧
      m.OptionsPrecedence arguments above (layer.toList ++ [start]) := by
  obtain ⟨start, hstart, rfl⟩ := make_ok hm
  have hhas : start.family.hasTopK = true := by
    rw [Options.family_of hstart]
    exact bne_iff_ne.mpr hfamily
  exact ⟨start, hstart, optionsPrecedence_of_layered hd habove
    ((Options.Layered.one start).mergeOption layer) (Options.hasTopK_mergeOption hhas layer)⟩

/-- Options given to a model: a limit on the reply, and a field that only some families have. -/
def lowLayer : Options where
  family := .mistral
  maxTokens := .filled 9
  topK := .filled 5

/-- Options given with a request: another limit, and a name for the request's metadata. -/
def highLayer : Options where
  maxTokens := .filled 7
  properties := [("trace", .bool true)]

/-- Arguments that set an empty list of tools besides. -/
def layeredArguments : List (String × Given) :=
  [("chat_options", .leaf (.options highLayer)), ("tools", .list [])]

/-- Each layer has its say: the limit is that of the request, the field that only some families have
is that of the model, and the empty list counts. -/
theorem hosted_options_precedence :
    Family.hosted ≠ .general ∧ ∃ m o, make .hosted (some "m") (some lowLayer) {} = .ok m ∧
      m.options layeredArguments = .ok o ∧
      (o.maxTokens, o.topK, o.tools.value?.map List.length) = (.filled 7, .filled 5, some 0) ∧
      ∃ start, Options.ofFields .hosted Family.hosted.defaultFields = .ok start ∧
        m.OptionsPrecedence layeredArguments (some highLayer) ((some lowLayer).toList ++ [start]) :=
  ⟨by decide, _, _, rfl, rfl, rfl, options_precedence_of_make (by decide) rfl (by decide) rfl⟩

/-- A number for a stop text is refused, and not with a fault of the request. -/
theorem stop_refused_otherwise :
    ¬ ∀ arguments f, bareHosted.options arguments = .error f →
      ∃ text cause, f = .raised .request text cause := by
  intro h
  obtain ⟨text, cause, hf⟩ := h [("stop", .int 5)]
    (.wrongKind "'int' object is not iterable") rfl
  cases hf

end ChatModel

end Parley
