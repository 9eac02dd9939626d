/-
Options laid over options are made again.

What is laid over options is not only put together: the result is made anew from the fields
that were given, and what comes out of a check goes through it once more.  `Options.remade`
is that way of laying options over others, and `Options.merge` what it comes to, as long as
the options come from a constructor themselves: no check refuses or changes what it has
accepted.

The families form a tree, and of two the one farther down is taken, or the lower layer's when
both are as far down.  So the family of many layers is the lowest layer's among those that
are farthest down, in whatever order they are put together.
-/
import Parley.Proofs.Layers
import Parley.Proofs.Naming

namespace Parley

open EmbeddingOptions (entry given? get?_entry propertiesField)

/-! ### Families -/

namespace Family

/-- How far down a family is in the tree of families. -/
def depth : Family → Nat
  | .general => 0
  | .hosted => 1
  | _ => 2

/-- The family of options that others are laid over. -/
def narrower (under top : Family) : Family :=
  if top.within under then top else under

theorem narrower_eq (under top : Family) :
    narrower under top = if under.depth < top.depth then top else under := by
  cases under <;> cases top <;> rfl

/-- **The family of layers does not depend on which are put together first.** -/
theorem narrower_assoc (a b c : Family) :
    narrower (narrower a b) c = narrower a (narrower b c) := by
  simp only [narrower_eq]
  by_cases hab : a.depth < b.depth <;> by_cases hbc : b.depth < c.depth
  · have hac : a.depth < c.depth := by omega
    simp [hab, hbc, hac]
  · simp [hab, hbc]
  · simp [hab, hbc]
  · have hac : ¬ a.depth < c.depth := by omega
    simp [hab, hbc, hac]

/-- What is laid over a family that it is a case of, or the other way round, is the narrower one. -/
theorem narrower_within {a b : Family} (h : a.within b = true) :
    narrower a b = a ∧ narrower b a = a := by
  revert h
  cases a <;> cases b <;> decide

/-- A family that has `topK` does not lose it. -/
theorem hasTopK_narrower {a b : Family} (h : a.hasTopK = true ∨ b.hasTopK = true) :
    (narrower a b).hasTopK = true := by
  revert h
  cases a <;> cases b <;> decide

end Family

namespace Options

/-! ### Writing fields down -/

/-- Stop texts as they are given. -/
def stopGiven : Stop → Given
  | .one s => .str s
  | .many ss => .list (ss.map .str)

namespace Field

variable {α : Type}

/-- The value of a field as it is given. -/
def write : Field α → α → Given
  | modelId, s => .str s
  | maxTokens, n => .int n
  | temperature, x => .float x
  | topP, x => .float x
  | stop, s => stopGiven s
  | toolChoice, m => .leaf (.mode m)
  | tools, items => .list (items.map ToolItem.given)
  | topK, n => .int n

theorem write_isNull (f : Field α) (a : α) : (f.write a).isNull = false := by
  cases f <;> first | rfl | (cases a <;> rfl)

theorem positive_again {v : Given} {n : Int} (h : Check.positive v = .ok n) :
    Check.positive (.int n : Given) = .ok n := by
  obtain ⟨m, -, hm⟩ := Outcome.bind_ok.mp h
  unfold Check.above at hm
  split at hm
  · obtain rfl := Except.ok.inj hm
    exact if_pos ‹_›
  · cases hm

theorem probability_again {v : Given} {x : Float} (h : Check.probability v = .ok x) :
    Check.probability (.float x : Given) = .ok x := by
  obtain ⟨y, -, hy⟩ := Outcome.bind_ok.mp h
  have hsame : x = y := by
    split at hy
    · cases hy
    · unfold Check.floor at hy
      split at hy
      · exact (Except.ok.inj hy).symm
      · cases hy
  subst hsame
  exact hy

theorem items_strings (ss : List String) (i : Nat) :
    Checked.items Check.string i (ss.map (Value.str : String → Given)) = .ok ss := by
  induction ss generalizing i with
  | nil => rfl
  | cons s rest ih =>
      rw [List.map_cons, Checked.items, ih]
      rfl

theorem stop_again (s : Stop) : Stop.ofGiven (stopGiven s) = .ok s := by
  cases s with
  | one s => rfl
  | many ss =>
      unfold Stop.ofGiven stopGiven
      have hlist : Check.list Check.string (.list (ss.map .str) : Given) = .ok ss :=
        items_strings ss 0
      rw [hlist]
      rfl

/-- **A check accepts what it has accepted before, and takes it for the same.** -/
theorem check_write (f : Field α) {v : Given} {a : α} (h : f.check v = .ok a) :
    f.check (f.write a) = .ok a := by
  cases f with
  | modelId => rfl
  | maxTokens => exact positive_again h
  | temperature => exact probability_again h
  | topP => exact probability_again h
  | stop => exact stop_again a
  | toolChoice => rfl
  | tools =>
      show ToolItem.listOfGiven (.list (a.map ToolItem.given)) = .ok a
      unfold ToolItem.listOfGiven
      dsimp only
      rw [ToolItem.mapM_ofGiven_given]
  | topK => exact positive_again h

end Field

/-- A field as it was given. -/
def entryOf {α : Type} (o : Options) (f : Field α) : List (String × Given) :=
  entry f.name f.write (f.of o)

/-- The fields that were given, apart from the properties. -/
def fields (o : Options) : List (String × Given) :=
  o.entryOf .modelId ++ o.entryOf .maxTokens ++ o.entryOf .temperature ++ o.entryOf .topP
    ++ o.entryOf .stop ++ o.entryOf .toolChoice ++ o.entryOf .tools ++ o.entryOf .topK

theorem get?_fields {α : Type} (o : Options) (f : Field α) :
    Entries.get? o.fields f.name = given? f.write (f.of o) := by
  cases f <;> simp [fields, entryOf, Entries.get?_append, get?_entry, Field.name]

theorem get?_fields_properties (o : Options) :
    Entries.get? o.fields "additional_properties" = none := by
  simp [fields, entryOf, Entries.get?_append, get?_entry, Field.name]

theorem nodup_fields (o : Options) : (o.fields.map Prod.fst).Nodup := by
  have hentry {α : Type} (f : Field α) : ((o.entryOf f).map Prod.fst).Sublist [f.name] := by
    unfold entryOf
    cases f.of o <;> simp [entry]
  have hall : (o.fields.map Prod.fst).Sublist
      ((((((([Field.modelId.name] ++ [Field.maxTokens.name]) ++ [Field.temperature.name]) ++
        [Field.topP.name]) ++ [Field.stop.name]) ++ [Field.toolChoice.name]) ++
        [Field.tools.name]) ++ [Field.topK.name]) := by
    unfold fields
    simp only [List.map_append]
    exact (((((((hentry _).append (hentry _)).append (hentry _)).append (hentry _)).append
      (hentry _)).append (hentry _)).append (hentry _)).append (hentry _)
  exact List.Nodup.sublist hall (by decide)

/-! ### Making options again -/

/-- The fields of a lower layer that the family of the result has. -/
def kept (family : Family) (under : Options) : List (String × Given) :=
  under.fields.filter fun e => (fieldNames family).contains e.1

/-- The fields of a layer that cover those below it. -/
def covering (family : Family) (top : Options) : List (String × Given) :=
  top.fields.filter fun e => (fieldNames family).contains e.1 && !e.2.isNull

/-- The fields that options laid over others are made of. -/
def laid (under top : Options) : List (String × Given) :=
  let family := Family.narrower under.family top.family
  Entries.union (kept family under) (covering family top)
    ++ [propertiesField (Entries.union under.properties top.properties)]

/-- Lay options over others, and make the result anew from its fields. -/
def remade (under top : Options) : Except Fault Options :=
  ofFields (Family.narrower under.family top.family) (laid under top)

/-- What holds of options that come from a constructor: every value was accepted, and there is none
that the family has no field for. -/
structure Sound (o : Options) : Prop where
  accepted : ∀ {α : Type} (f : Field α) (a : α), f.of o = .filled a → ∃ v, f.check v = .ok a
  own : ∀ {α : Type} (f : Field α), f.isOf o.family = false → f.of o = .unset

variable {family : Family} {given : List (String × Given)} {o under top : Options}

theorem sound_of_fields (h : ofFields family given = .ok o) : o.Sound := by
  have hfamily := family_of h
  refine ⟨fun f a hf => ?_, fun f hf => ?_⟩
  · have hread := f.read_of h
    unfold Field.read at hread
    rw [hf] at hread
    split at hread
    · unfold slot at hread
      split at hread
      · rename_i v _
        obtain ⟨value, hvalue, hslot⟩ := Outcome.map_ok.mp hread
        have hsome : value = some a := by
          cases value with
          | none => cases hslot
          | some b => rw [show b = a by cases hslot; rfl]
        rw [Checked.named_ok, hsome] at hvalue
        unfold Check.optional at hvalue
        split at hvalue
        · cases hvalue
        · obtain ⟨b, hb, hba⟩ := Outcome.map_ok.mp hvalue
          exact ⟨_, Option.some.inj hba ▸ hb⟩
      · cases hread
    · cases hread
  · have hread := f.read_of h
    unfold Field.read at hread
    rw [← hfamily, hf, if_neg Bool.false_ne_true] at hread
    exact (Except.ok.inj hread).symm

/-- A field that is set holds what it would be made with; the others are as they were. -/
theorem assign_fields {o' : Options} {name : String} {v : Given} (h : o.assign name v = .ok o') :
    o'.family = o.family ∧ (o' = o ∨ ∃ one, ofFields o.family [(name, v)] = .ok one ∧
      ∀ {α : Type} (f : Field α), f.of o' = f.of o ∨ f.of o' = f.of one) := by
  unfold assign at h
  split at h
  · obtain ⟨-, -, rfl⟩ := Outcome.map_ok.mp h
    exact ⟨rfl, .inl rfl⟩
  split at h
  · cases h
  split at h
  · cases h
  obtain ⟨one, hone, h⟩ := Outcome.bind_ok.mp h
  obtain rfl := Except.ok.inj h
  refine ⟨by split <;> rfl, .inr ⟨one, hone, fun f => ?_⟩⟩
  split <;> cases f <;> first | exact .inl rfl | exact .inr rfl

/-- Options that come from a constructor, some fields of which may have been set since. -/
inductive Made : Options → Prop
  | fields {family : Family} {given : List (String × Given)} {o : Options}
      (h : ofFields family given = .ok o) : Made o
  | assigned {o o' : Options} {name : String} {v : Given} (h : Made o)
      (hset : o.assign name v = .ok o') : Made o'

/-- However options were made, they are sound. -/
theorem Made.sound (h : o.Made) : o.Sound := by
  induction h with
  | fields h => exact sound_of_fields h
  | @assigned o o' name v _ hset ih =>
      obtain ⟨hfamily, rfl | ⟨one, hone, hfields⟩⟩ := assign_fields hset
      · exact ih
      have hsound := sound_of_fields hone
      refine ⟨fun f a hf => ?_, fun f hf => ?_⟩
      · rcases hfields f with heq | heq <;> rw [heq] at hf
        · exact ih.accepted f a hf
        · exact hsound.accepted f a hf
      · rw [hfamily] at hf
        rcases hfields f with heq | heq <;> rw [heq]
        · exact ih.own f hf
        · exact hsound.own f (by rw [family_of hone]; exact hf)

theorem contains_name {α : Type} (f : Field α) (family : Family) :
    (fieldNames family).contains f.name = f.isOf family := by
  cases f <;> cases family <;> rfl

theorem get?_kept {α : Type} (f : Field α) (hf : f.isOf family = true) :
    Entries.get? (kept family under) f.name = given? f.write (f.of under) := by
  unfold kept
  rw [Entries.get?_filter under.nodup_fields, get?_fields]
  simp only [contains_name, hf]
  cases f.of under <;> rfl

/-- Only a value covers what is below it. -/
theorem get?_covering {α : Type} (f : Field α) (hf : f.isOf family = true) :
    Entries.get? (covering family top) f.name = (f.of top).value?.map f.write := by
  unfold covering
  rw [Entries.get?_filter top.nodup_fields, get?_fields]
  simp only [contains_name, hf, Bool.true_and]
  cases f.of top with
  | filled a => exact Option.filter_some_pos (by rw [f.write_isNull]; rfl)
  | cleared => rfl
  | unset => rfl

theorem nodup_covering (family : Family) (top : Options) :
    ((covering family top).map Prod.fst).Nodup :=
  top.nodup_fields.sublist (List.filter_sublist.map Prod.fst)

/-- What is found of a field among those that options laid over others are made of. -/
theorem get?_laid {α : Type} (f : Field α)
    (hf : f.isOf (Family.narrower under.family top.family) = true) :
    Entries.get? (laid under top) f.name =
      given? f.write ((f.of under).coveredBy (f.of top)) := by
  have hother : "additional_properties" ≠ f.name := by cases f <;> decide
  unfold laid
  dsimp only
  rw [Entries.get?_append, Entries.get?_union_or (nodup_covering _ top), get?_covering f hf,
    get?_kept f hf, propertiesField, Entries.get?_cons, if_neg hother, Entries.get?_nil,
    Option.or_none]
  cases f.of top <;> rfl

theorem get?_laid_properties (under top : Options) :
    Entries.get? (laid under top) "additional_properties" =
      some (propertiesField (Entries.union under.properties top.properties)).2 := by
  unfold laid
  dsimp only
  rw [Entries.get?_append, Entries.get?_union_or (nodup_covering _ top)]
  unfold covering kept
  rw [Entries.get?_filter top.nodup_fields, Entries.get?_filter under.nodup_fields,
    get?_fields_properties, get?_fields_properties]
  rfl

theorem documents_given (entries : Properties) :
    Given.documents (entries.map fun (k, v) => (k, Given.ofDocument v)) = entries := by
  unfold Given.documents
  rw [List.map_map]
  conv_rhs => rw [← List.map_id entries]
  refine List.map_congr_left fun e _ => ?_
  show (e.1, Given.document (Given.ofDocument e.2)) = e
  rw [Given.document_ofDocument]

/-- A field that is given as it was is read as it was. -/
theorem slot_given {α : Type} (f : Field α) {s : Slot α}
    (hget : Entries.get? given f.name = given? f.write s)
    (hs : ∀ a, s = .filled a → ∃ v, f.check v = .ok a) : slot given f.name f.check = .ok s := by
  unfold slot
  rw [hget]
  cases s with
  | unset => rfl
  | cleared => rfl
  | filled a =>
      obtain ⟨v, hv⟩ := hs a rfl
      have hoptional : Check.optional f.check (f.write a) = .ok (some a) := by
        have hnull := f.write_isNull a
        have hagain := f.check_write hv
        unfold Check.optional
        split
        · rename_i heq
          rw [heq] at hnull
          cases hnull
        · rw [hagain]
          rfl
      show (Checked.named f.name (Check.optional f.check (f.write a))).map Slot.ofOption = _
      rw [hoptional]
      rfl

theorem Sound.merge (hu : under.Sound) (ht : top.Sound) : (under.merge top).Sound := by
  refine ⟨fun f a h => ?_, fun f h => ?_⟩
  · rw [f.of_merge] at h
    cases htop : f.of top with
    | filled b => exact ht.accepted f a (by rw [htop] at h ⊢; exact h)
    | cleared => exact hu.accepted f a (by rw [htop] at h; exact h)
    | unset => exact hu.accepted f a (by rw [htop] at h; exact h)
  · -- only the most general family lacks a field, and a result of it has no other layers
    have hboth : f.isOf under.family = false ∧ f.isOf top.family = false := by
      have hnarrower : f.isOf (Family.narrower under.family top.family) = false := h
      cases f with
      | topK =>
          have := mt Family.hasTopK_narrower (ne_true_of_eq_false hnarrower)
          simpa [not_or, Field.isOf] using this
      | _ => cases hnarrower
    rw [f.of_merge, hu.own f hboth.1, ht.own f hboth.2]
    rfl

/-- **Made again, options laid over others are what they were put together to.** -/
theorem remade_eq (hu : under.Sound) (ht : top.Sound) :
    under.remade top = .ok (under.merge top) := by
  have hsound := hu.merge ht
  refine ofFields_iff.mpr ⟨?_, read_iff.mpr ⟨fun f => ?_, ?_, rfl, ?_⟩⟩
  · have htools := @get?_laid under top _ .tools rfl
    unfold toolFault?
    rw [show "tools" = Field.tools.name by rfl, htools]
    cases (Field.tools.of under).coveredBy (Field.tools.of top) with
    | unset => rfl
    | cleared => rfl
    | filled items =>
        show ToolItem.fault? (.list (items.map ToolItem.given)) = none
        unfold ToolItem.fault?
        dsimp only
        rw [ToolItem.mapM_ofGiven_given]
  · unfold Field.read
    by_cases hf : f.isOf (Family.narrower under.family top.family) = true
    · rw [if_pos hf]
      refine slot_given f ?_ (hsound.accepted f)
      rw [get?_laid f hf, f.of_merge]
    · rw [if_neg hf]
      exact congrArg Except.ok (hsound.own f (Bool.eq_false_iff.mpr hf)).symm
  · unfold readProperties Check.field
    rw [get?_laid_properties]
    show Checked.named _ (Except.ok (Given.documents _)) = _
    rw [documents_given]
    rfl
  · rw [Value.has_eq_isSome, get?_laid_properties]
    rfl

/-! ### Layers in any grouping -/

theorem coveredBy_assoc {α : Type} (a b c : Slot α) :
    (a.coveredBy b).coveredBy c = a.coveredBy (b.coveredBy c) := by
  cases c <;> rfl

/-- **It does not matter which layers are put together first.** -/
theorem merge_assoc (a : Options) {b : Options} (hb : b.Distinct) (c : Options) :
    (a.merge b).merge c = a.merge (b.merge c) := by
  have hfamily : Family.narrower (Family.narrower a.family b.family) c.family =
      Family.narrower a.family (Family.narrower b.family c.family) :=
    Family.narrower_assoc _ _ _
  have hproperties : Entries.union (Entries.union a.properties b.properties) c.properties =
      Entries.union a.properties (Entries.union b.properties c.properties) :=
    Entries.union_assoc hb _ _
  unfold Family.narrower at hfamily
  unfold merge
  simp only [coveredBy_assoc, hfamily, hproperties]

/-- Options that hold no value, whatever was cleared in them. -/
structure HoldsNothing (o : Options) : Prop where
  fields : ∀ {α : Type} (f : Field α), (f.of o).value? = none
  properties : o.properties = []

/-- Options of one family with the same values, in properties with the same order of keys too. -/
structure SameValues (o p : Options) : Prop where
  family : o.family = p.family
  fields : ∀ {α : Type} (f : Field α), (f.of o).value? = (f.of p).value?
  properties : o.properties = p.properties

variable {a e : Options}

/-- What holds nothing covers nothing. -/
theorem HoldsNothing.merge_right (he : e.HoldsNothing) (h : a.family.within e.family = true) :
    (a.merge e).SameValues a where
  family := (Family.narrower_within h).1
  fields f := by rw [f.of_merge, Slot.value?_coveredBy, he.fields, Option.none_or]
  properties := by
    show Entries.union a.properties e.properties = a.properties
    rw [he.properties]
    rfl

/-- What holds nothing is covered by everything. -/
theorem HoldsNothing.merge_left (he : e.HoldsNothing) (h : a.family.within e.family = true)
    (ha : a.Distinct) : (e.merge a).SameValues a where
  family := (Family.narrower_within h).2
  fields f := by rw [f.of_merge, Slot.value?_coveredBy, he.fields, Option.or_none]
  properties := by
    show Entries.union e.properties a.properties = a.properties
    rw [he.properties]
    exact Entries.union_new ha

/-- **Three layers come to the same options however they are grouped, and no check refuses them on
the way.**  Options that hold nothing, of a family that another's is a case of, change none of its
values. -/
theorem remade_grouped {a b c : Options} (ha : a.Made) (hb : b.Made) (hc : c.Made)
    (hda : a.Distinct) (hdb : b.Distinct) :
    (a.remade b >>= fun ab => ab.remade c) = .ok ((a.merge b).merge c) ∧
      (b.remade c >>= fun bc => a.remade bc) = .ok (a.merge (b.merge c)) ∧
      (a.merge b).merge c = a.merge (b.merge c) ∧
      ∀ e : Options, e.Made → e.HoldsNothing → a.family.within e.family = true →
        a.remade e = .ok (a.merge e) ∧ (a.merge e).SameValues a ∧
          e.remade a = .ok (e.merge a) ∧ (e.merge a).SameValues a := by
  have hsa := ha.sound
  have hsb := hb.sound
  have hsc := hc.sound
  refine ⟨?_, ?_, merge_assoc a hdb c, fun e he hnothing hwithin => ?_⟩
  · rw [remade_eq hsa hsb, Outcome.ok_bind, remade_eq (hsa.merge hsb) hsc]
  · rw [remade_eq hsb hsc, Outcome.ok_bind, remade_eq hsa (hsb.merge hsc)]
  · exact ⟨remade_eq hsa he.sound, hnothing.merge_right hwithin,
      remade_eq he.sound hsa, hnothing.merge_left hwithin hda⟩

/-- Options of one family, general ones that clear a field, and those of the service: whichever are
put together first, the family and the order of keys are the first one's, and what the last holds
is above. -/
theorem cohere_grouped :
    let a : Options :=
      { family := .cohere, maxTokens := .filled 9, topK := .filled 5, propertiesGiven := true
        properties := [("x", .int 1), ("y", .int 2)] }
    let b : Options :=
      { maxTokens := .cleared, stop := .filled (.many ["END"]), propertiesGiven := true
        properties := [("z", .int 3), ("x", .int 4)] }
    let c : Options := { family := .hosted, topK := .filled 7 }
    let o : Options :=
      { family := .cohere, maxTokens := .filled 9, stop := .filled (.many ["END"])
        topK := .filled 7, propertiesGiven := true
        properties := [("x", .int 4), ("y", .int 2), ("z", .int 3)] }
    (a.remade b >>= fun ab => ab.remade c) = .ok o ∧
      (b.remade c >>= fun bc => a.remade bc) = .ok o ∧ (Options.merge {} a).SameValues a := by
  intro a b c o
  have ha : a.Made := @Made.fields .cohere [("top_k", .int 5), ("max_tokens", .int 9),
    ("additional_properties", .obj [("x", .int 1), ("y", .int 2)])] _ rfl
  have hb : b.Made := @Made.fields .general [("max_tokens", .null), ("stop", .list [.str "END"]),
    ("additional_properties", .obj [("z", .int 3), ("x", .int 4)])] _ rfl
  have hc : c.Made := @Made.fields .hosted [("top_k", .int 7)] _ rfl
  obtain ⟨hleft, hright, hsame, hnothing⟩ :=
    remade_grouped ha hb hc (by unfold Distinct; decide) (by unfold Distinct; decide)
  have hempty := hnothing {} (@Made.fields .general [] _ rfl)
    ⟨fun f => by cases f <;> rfl, rfl⟩ rfl
  have ho : (a.merge b).merge c = o := rfl
  exact ⟨ho ▸ hleft, by rw [hright, ← hsame, ho], hempty.2.2.2⟩

end Options

end Parley
