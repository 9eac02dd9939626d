/-
What is left of an annotation.

A parameter is annotated with a type and notes, and its field should take what the type takes under
all the rules among the notes.  An annotation that says nothing in second place but types and rules
is used as it is.  A text in second place describes what stands in front of it, and that alone
becomes the field.  Behind a text that comes first among the notes all further notes are lost, so
the field takes whatever the bare type takes.  And where the text belongs to the type itself, its
first part is taken for the whole: of a choice the first word, which becomes the name of a type, of a
mapping to a name the type of its keys, and of a pair its first half.

`Described` lists these shapes, and what is made of an annotation is said for each by the type that
its front part stands for, if it stands for any.
-/
import Parley.Proofs.Reporting
import Parley.Wire.Offer

namespace Parley

namespace Field

/-- Whether a field takes a value. -/
def Accepts (f : Field) (v : Document) : Prop := ∃ w, f.check v = .ok (.ok w)

/-- The field of a type alone. -/
def bare (kind : Kind) : Field := { kind }

end Field

/-- The type that an argument stands for where a type belongs. -/
def Argument.StandsFor (base : Argument) (names : String → Sense) (kind : Kind) : Prop :=
  ∃ hint, base.asType names = .ok hint ∧ hint.resolve names = some (.ok kind)

namespace Annotation

/-- The shapes of an annotation with a text in second place, and what stands in front of it. -/
inductive Described : Annotation → Argument → String → Prop
  | noted {kind : Hint} {s : String} {notes : List Note} {names : String → Sense} :
      Described ⟨kind, .text s :: notes, names⟩ (.type kind) s
  | choice {member : Member} {s : String} {members : List Member} {names : String → Sense} :
      Described ⟨.choice (member :: .word s :: members), [], names⟩ (.ofMember member) s
  | mapping {s : String} {names : String → Sense} :
      Described ⟨.objOf (.named s), [], names⟩ (.type .str) s
  | pair {first : Hint} {s : String} {names : String → Sense} :
      Described ⟨.pair first (.named s), [], names⟩ (.ofHint first) s

/-- The field that an annotation means: its type under all the rules among its notes. -/
def meant (a : Annotation) : Option (Except Fault Field) := a.fieldOf? a.kind (rules a.notes)

/-- The field of a type that is described and nothing else. -/
def described (kind : Kind) (s : String) : Field :=
  { Field.bare kind with settings := [("description", .str s)] }

variable {a : Annotation} {own f : Field} {base : Argument} {hint : Hint} {kind : Kind} {s : String}

/-- An argument of a type is a text where the type is a name. -/
theorem ofHint_eq_text_iff : Argument.ofHint hint = .text s ↔ hint = .named s := by
  cases hint <;> simp [Argument.ofHint]

theorem ofMember_eq_text_iff {member : Member} :
    Argument.ofMember member = .text s ↔ member = .word s := by
  cases member <;> simp [Argument.ofMember]

/-- The text in second place among the arguments of a type. -/
theorem described?_bare {names : String → Sense} {rest : List Argument}
    (h : hint.arguments = base :: .text s :: rest) : Described ⟨hint, [], names⟩ base s := by
  cases hint with
  | objOf values =>
      simp only [Hint.arguments, List.cons.injEq, ofHint_eq_text_iff] at h
      obtain ⟨rfl, rfl, -⟩ := h
      exact .mapping
  | choice members =>
      obtain ⟨member, later, rfl, rfl, hlater⟩ := List.map_eq_cons_iff.mp h
      obtain ⟨second, others, rfl, hword, -⟩ := List.map_eq_cons_iff.mp hlater
      obtain rfl := ofMember_eq_text_iff.mp hword
      exact .choice
  | pair first second =>
      simp only [Hint.arguments, List.cons.injEq, ofHint_eq_text_iff] at h
      obtain ⟨rfl, rfl, -⟩ := h
      exact .pair
  | _ => simp [Hint.arguments] at h

/-- **These are all the shapes** in which a text stands in second place. -/
theorem described_iff : a.Described base s ↔ a.described? = some (base, s) := by
  constructor
  · rintro (_ | _ | _ | _) <;> rfl
  · intro h
    obtain ⟨hint, notes, names⟩ := a
    unfold described? at h
    split at h
    · rename_i front text rest harguments
      obtain ⟨rfl, rfl⟩ := Prod.mk.inj (Option.some.inj h)
      cases notes with
      | nil => exact described?_bare harguments
      | cons note notes =>
          obtain ⟨rfl, hnotes⟩ := List.cons.inj harguments
          cases note with
          | text s =>
              obtain ⟨htext, -⟩ := List.cons.inj hnotes
              obtain rfl := Argument.text.inj htext
              exact .noted
          | rule r =>
              obtain ⟨hother, -⟩ := List.cons.inj hnotes
              cases hother
    · cases h

/-! ### What is made of an annotation -/

/-- An annotation without a text in second place is used as it is. -/
theorem field?_plain (h : a.described? = none) : a.field? = a.meant := by
  unfold field? read
  rw [h]
  rfl

/-- **A text in second place describes what stands in front of it**, and all the rest is lost. -/
theorem field?_described (h : a.described? = some (base, s)) :
    a.field? = some (.ok f) ↔ ∃ kind, base.StandsFor a.names kind ∧ f = described kind s := by
  unfold field? read Argument.StandsFor
  rw [h]
  dsimp only
  cases base.asType a.names with
  | error fault => simp [Except.map]
  | ok hint =>
      simp only [Except.map, fieldOf?, Option.map_eq_some_iff]
      constructor
      · rintro ⟨r, hr, hf⟩
        obtain ⟨kind, rfl, hf⟩ := Outcome.bind_ok.mp hf
        exact ⟨kind, ⟨hint, rfl, hr⟩, (Except.ok.inj hf).symm⟩
      · rintro ⟨kind, ⟨_, hhint, hr⟩, rfl⟩
        obtain rfl := Except.ok.inj hhint
        exact ⟨_, hr, rfl⟩

/-- The field of an annotation takes what the annotation means. -/
def Keeps (a : Annotation) (own : Field) : Prop :=
  ∃ f, a.field? = some (.ok f) ∧ ∀ v, f.Accepts v ↔ own.Accepts v

/-- **An annotation keeps its meaning** unless a text stands in second place, and in front of it
nothing that is a type by itself, or a type that takes other values. -/
theorem keeps_iff (hown : a.meant = some (.ok own)) :
    a.Keeps own ↔ ∀ base s, a.Described base s →
      ∃ kind, base.StandsFor a.names kind ∧ ∀ v, (Field.bare kind).Accepts v ↔ own.Accepts v := by
  simp only [described_iff]
  unfold Keeps
  cases hd : a.described? with
  | none => simp [field?_plain hd, hown]
  | some d =>
      obtain ⟨base, s⟩ := d
      simp only [field?_described hd]
      constructor
      · rintro ⟨f, ⟨kind, hkind, rfl⟩, hsame⟩ base' s' heq
        obtain ⟨rfl, rfl⟩ := Prod.mk.inj (Option.some.inj heq)
        exact ⟨kind, hkind, hsame⟩
      · intro h
        obtain ⟨kind, hkind, hsame⟩ := h base s rfl
        exact ⟨_, ⟨kind, hkind, rfl⟩, hsame⟩

/-- An annotation that means a field is read and made into one exactly if what stands in front of a
text in second place is a type. -/
theorem made_iff (hmeant : ∃ own, a.meant = some (.ok own)) :
    (∃ f, a.field? = some (.ok f)) ↔
      ∀ base s, a.Described base s → ∃ kind, base.StandsFor a.names kind := by
  simp only [described_iff]
  obtain ⟨own, hown⟩ := hmeant
  cases hd : a.described? with
  | none => simp [field?_plain hd, hown]
  | some d =>
      obtain ⟨base, s⟩ := d
      simp [field?_described hd]

theorem fault?_eq_none_iff :
    a.fault? = none ↔ ∀ base s, a.Described base s → ∃ hint, base.asType a.names = .ok hint := by
  simp only [described_iff]
  unfold fault? read
  cases hd : a.described? with
  | none => simp
  | some d =>
      obtain ⟨base, s⟩ := d
      cases hbase : base.asType a.names <;> simp [Except.map, hbase]

end Annotation

/-! ### Inputs of annotated functions -/

namespace Input

variable {f : Function} {t : Tool}

/-- Fields are made parameter by parameter. -/
theorem exists_mapM_fieldOf? {ps : List Parameter}
    (h : ∀ p ∈ ps, ∃ field, fieldOf? p = some (.ok field)) :
    ∃ fields : List (String × Field × Option Document),
      ps.mapM fieldOf? = some (fields.map Except.ok) := by
  induction ps with
  | nil => exact ⟨[], rfl⟩
  | cons p rest ih =>
      obtain ⟨field, hfield⟩ := h p (by simp)
      obtain ⟨fields, hfields⟩ := ih fun q hq => h q (by simp [hq])
      refine ⟨field :: fields, ?_⟩
      rw [List.mapM_cons, hfield, hfields]
      rfl

/-- A function has an input when all its annotations can be read, and a field can be made of each
parameter that is shown. -/
theorem exists_fieldsOf?_iff :
    (∃ fields, fieldsOf? f = some (.ok fields)) ↔
      (∀ p ∈ f.parameters.filter isRead, misread? p = none) ∧
        ∀ p ∈ f.parameters.filter isShown, ∃ field, fieldOf? p = some (.ok field) := by
  constructor
  · rintro ⟨fields, hfields⟩
    refine ⟨fun p hp => ?_, fun p hp => ?_⟩
    · unfold fieldsOf? at hfields
      split at hfields
      · cases hfields
      · rename_i hread
        exact List.findSome?_eq_none_iff.mp hread p hp
    · obtain ⟨field, -, hfield⟩ := exists_mem_of_forall₂ (fieldsOf?_ok hfields) hp
      exact ⟨field, hfield⟩
  · rintro ⟨hread, hshown⟩
    unfold fieldsOf?
    rw [List.findSome?_eq_none_iff.mpr hread]
    dsimp only
    obtain ⟨fields, hfields⟩ := exists_mapM_fieldOf? hshown
    refine ⟨fields, ?_⟩
    rw [hfields, Option.map_some, Option.some.injEq, Outcome.mapM_ok, List.forall₂_map_left_iff,
      List.forall₂_same]
    exact fun _ _ => rfl

theorem isSome_ofTool?_iff :
    (ofTool? t).isSome = true ↔ ∃ fields, fieldsOf? t.function = some (.ok fields) := by
  unfold ofTool?
  rcases fieldsOf? t.function with _ | _ | fields <;> simp

theorem fault?_eq_none (h : (ofTool? t).isSome = true) : fault? t.function = none := by
  obtain ⟨fields, hfields⟩ := isSome_ofTool?_iff.mp h
  unfold fault?
  rw [hfields]

/-- The annotation of a parameter can be read. -/
theorem misread?_eq_none_iff {p : Parameter} :
    misread? p = none ↔ ∀ a, p.annotation = some a → a.fault? = none := by
  unfold misread?
  cases p.annotation <;> simp

/-- A field can be made of a parameter if one can be made of its annotation. -/
theorem exists_fieldOf?_iff {p : Parameter} :
    (∃ field, fieldOf? p = some (.ok field)) ↔
      ∀ a, p.annotation = some a → ∃ f, a.field? = some (.ok f) := by
  unfold fieldOf?
  cases p.annotation with
  | none => simp
  | some a =>
      rcases hfield : a.field? with _ | _ | f <;> simp [hfield, Except.map]

end Input

namespace Tool

/-- A tool can be used: its arguments can be checked, and it can be shown to a model. -/
structure Usable (t : Tool) : Prop where
  checked : ∀ entries, t.checked entries ≠ .error .unresolved
  shown : ∃ spec, Wire.toolSpec t = .ok spec

theorem usable_iff {t : Tool} : t.Usable ↔ (Input.ofTool? t).isSome = true := by
  constructor
  · intro h
    by_contra hnone
    refine h.checked [] ?_
    unfold checked
    rw [Option.not_isSome_iff_eq_none.mp hnone]
  · intro hdef
    refine ⟨fun entries h => ?_, ?_⟩
    · obtain ⟨l, -, w, hw⟩ := checked_error hdef h rfl
      cases Limit.after_error hw
    · obtain ⟨input, hinput⟩ := Option.isSome_iff_exists.mp hdef
      unfold Wire.toolSpec
      rw [hinput]
      exact ⟨_, rfl⟩

end Tool

/-- **Annotations keep their meaning** where no text stands in second place.  Of a function whose
annotations mean fields a tool can be made and used exactly if all that stands in front of such a
text can be read as a type, and is one where the parameter is shown.  The field that is made of an
annotation takes what the annotation means exactly if no text stands in second place, or what stands
in front of it is a type that takes the same values by itself.  A text in second place describes the
field. -/
theorem Annotation.meaning_kept_iff {t : Tool}
    (hmeant : ∀ p ∈ t.function.parameters.filter Input.isShown, ∀ a, p.annotation = some a →
      ∃ own, a.meant = some (.ok own)) :
    (Input.fault? t.function = none ∧ t.Usable ↔
      ∀ p ∈ t.function.parameters.filter Input.isRead, ∀ a, p.annotation = some a →
        ∀ base s, a.Described base s → (∃ hint, base.asType a.names = .ok hint) ∧
          (Input.isShown p = true → ∃ kind, base.StandsFor a.names kind)) ∧
    ∀ p ∈ t.function.parameters.filter Input.isShown, ∀ a, p.annotation = some a →
      (∀ own, a.meant = some (.ok own) →
        (a.Keeps own ↔ ∀ base s, a.Described base s → ∃ kind, base.StandsFor a.names kind ∧
          ∀ v, (Field.bare kind).Accepts v ↔ own.Accepts v)) ∧
      ∀ base s f, a.Described base s → a.field? = some (.ok f) →
        f.setting? "description" = some (.str s) := by
  refine ⟨?_, fun p hp a ha => ⟨fun own hown => keeps_iff hown, fun base s f hd hf => ?_⟩⟩
  · rw [Tool.usable_iff, and_iff_right_of_imp Input.fault?_eq_none, Input.isSome_ofTool?_iff,
      Input.exists_fieldsOf?_iff]
    simp only [Input.misread?_eq_none_iff, Input.exists_fieldOf?_iff, fault?_eq_none_iff]
    constructor
    · rintro ⟨hread, hmade⟩ p hp a ha base s hd
      refine ⟨hread p hp a ha base s hd, fun hshown => ?_⟩
      have hp : p ∈ t.function.parameters.filter Input.isShown :=
        List.mem_filter.mpr ⟨(List.mem_filter.mp hp).1, hshown⟩
      exact (made_iff (hmeant p hp a ha)).mp (hmade p hp a ha) base s hd
    · intro h
      refine ⟨fun p hp a ha base s hd => (h p hp a ha base s hd).1, fun p hp a ha => ?_⟩
      obtain ⟨hmem, hshown⟩ := List.mem_filter.mp hp
      have hread : p ∈ t.function.parameters.filter Input.isRead :=
        List.mem_filter.mpr ⟨hmem, Input.isRead_of_isShown hshown⟩
      exact (made_iff (hmeant p hp a ha)).mpr fun base s hd => (h p hread a ha base s hd).2 hshown
  · obtain ⟨kind, -, rfl⟩ := (field?_described (described_iff.mp hd)).mp hf
    rfl

namespace Annotation

/-! ### Annotations with a text in second place -/

/-- A whole number, described. -/
def counted : Annotation := { kind := .int, notes := [.text "A number"] }

/-- A whole number above zero, described. -/
def bounded : Annotation :=
  { kind := .int, notes := [.text "A number", .rule { limits := [⟨.above, .int 0⟩] }] }

/-- A choice between two words that nothing is named by. -/
def choosing : Annotation := { kind := .choice [.word "a", .word "b"] }

/-- A choice between two words that are names of types. -/
def choosingTypes : Annotation where
  kind := .choice [.word "int", .word "float"]
  names := fun
    | "int" => .type .int
    | "float" => .type .float
    | _ => .unknown

/-- A choice between a number and a word. -/
def choosingMixed : Annotation := { kind := .choice [.number 1, .word "a"] }

/-- A parameter with an annotation. -/
def parameter (a : Annotation) : Parameter := { name := "v", annotation := some a }

/-- A tool with one parameter. -/
def asTool (a : Annotation) : Tool where
  name := "f"
  function := { name := "f", parameters := [a.parameter] }

/-- A text alone costs nothing. -/
theorem counted_kept :
    Input.fault? counted.asTool.function = none ∧ counted.asTool.Usable ∧
      counted.Keeps (Field.bare .int) := by
  have hmeant : counted.meant = some (.ok (Field.bare .int)) := rfl
  have hfront : ∀ {base : Argument} {s : String}, counted.Described base s →
      base.StandsFor counted.names .int := by
    intro base s hd
    obtain ⟨rfl, -⟩ := Prod.mk.inj (Option.some.inj (described_iff.mp hd))
    exact ⟨.int, rfl, rfl⟩
  have hone : ∀ {shows : Parameter → Bool} {p : Parameter} {a : Annotation},
      p ∈ counted.asTool.function.parameters.filter shows → p.annotation = some a →
        a = counted := by
    intro shows p a hp ha
    obtain rfl := List.mem_singleton.mp (List.mem_filter.mp hp).1
    exact (Option.some.inj ha).symm
  obtain ⟨husable, hkeeps⟩ := meaning_kept_iff (t := counted.asTool) fun p hp a ha => by
    obtain rfl := hone hp ha
    exact ⟨_, hmeant⟩
  have hmem : counted.parameter ∈ counted.asTool.function.parameters.filter Input.isShown := by
    rw [List.mem_filter]
    exact ⟨List.mem_singleton.mpr rfl, by decide +kernel⟩
  obtain ⟨hfault, hused⟩ := husable.mpr fun p hp a ha base s hd => by
    obtain rfl := hone hp ha
    obtain ⟨hint, hhint, hkind⟩ := hfront hd
    exact ⟨⟨hint, hhint⟩, fun _ => ⟨.int, hint, hhint, hkind⟩⟩
  refine ⟨hfault, hused, ((hkeeps _ hmem counted rfl).1 _ hmeant).mpr fun base s hd => ?_⟩
  exact ⟨.int, hfront hd, fun _ => Iff.rfl⟩

/-- The bound behind a text is lost.  Of a choice between words the first is taken for a type: a
tool with one that is no name cannot be used, and with the name of a type it takes whatever that
type takes.  Of a choice that begins with a number no tool can be made. -/
theorem bounded_and_choosing_lost :
    (∃ own f, bounded.meant = some (.ok own) ∧ bounded.field? = some (.ok f) ∧
      f.Accepts (.int (-1)) ∧ ¬ own.Accepts (.int (-1))) ∧
    (Input.fault? choosing.asTool.function = none ∧
      ∀ entries, choosing.asTool.checked entries = .error .unresolved) ∧
    (∃ own f, choosingTypes.meant = some (.ok own) ∧ choosingTypes.field? = some (.ok f) ∧
      f.Accepts (.int 3) ∧ ¬ own.Accepts (.int 3)) ∧
    (Input.fault? choosingMixed.asTool.function).isSome = true := by
  have hnone : Input.ofTool? choosing.asTool = none :=
    Option.isNone_iff_eq_none.mp (by decide +kernel)
  have hmade : Input.fault? choosing.asTool.function = none :=
    Option.isNone_iff_eq_none.mp (by decide +kernel)
  refine ⟨⟨_, _, rfl, rfl, ⟨.int (-1), rfl⟩, ?_⟩, ⟨hmade, fun entries => ?_⟩,
    ⟨_, _, rfl, rfl, ⟨.int 3, rfl⟩, ?_⟩, by decide +kernel⟩
  · rintro ⟨w, hw⟩
    cases hw
  · unfold Tool.checked
    rw [hnone]
  · rintro ⟨w, hw⟩
    cases hw

end Annotation

end Parley
