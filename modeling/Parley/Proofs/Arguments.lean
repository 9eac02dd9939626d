/-
What a function is called with.

The arguments of a call are checked parameter by parameter, and what is checked is handed over by
name.  Two things keep a checked value from the function: it is nothing, or its field is marked as
not passed on.  The parameter is then left to its default, as one is that has no field at all, and a
parameter without a default is missed.  A record is handed over as the dictionary of its fields.
-/
import Mathlib.Data.List.Nodup
import Parley.Proofs.Execution

namespace Parley

/-! ### Data without records -/

namespace Value

mutual

/-- Whether there is a record in data, other than in what a fault tells. -/
def holdsRecord : Document → Bool
  | .list items => itemsHoldRecord items
  | .tuple items => itemsHoldRecord items
  | .obj entries => entriesHoldRecord entries
  | .leaf (.record _ _ _ _) => true
  | _ => false

/-- Whether there is a record in one of the items. -/
def itemsHoldRecord : List Document → Bool
  | [] => false
  | v :: rest => holdsRecord v || itemsHoldRecord rest

/-- Whether there is a record in one of the entries. -/
def entriesHoldRecord : List (String × Document) → Bool
  | [] => false
  | (_, v) :: rest => holdsRecord v || entriesHoldRecord rest

end

mutual

/-- Data without records is handed over as it is. -/
theorem unfold_of_holdsRecord {keep : Bool} :
    ∀ v : Document, holdsRecord v = false → unfold keep v = v
  | .null, _ => rfl
  | .bool _, _ => rfl
  | .int _, _ => rfl
  | .float _, _ => rfl
  | .str _, _ => rfl
  | .bytes _, _ => rfl
  | .list items, h => by
      rw [unfold, unfoldItems_of_holdsRecord items (by simpa [holdsRecord] using h)]
  | .tuple items, h => by
      rw [unfold, unfoldItems_of_holdsRecord items (by simpa [holdsRecord] using h)]
  | .obj entries, h => by
      rw [unfold, unfoldEntries_of_holdsRecord entries (by simpa [holdsRecord] using h)]
  | .leaf (.foreign _ _), _ => rfl
  | .leaf (.fault _ _ _), _ => rfl
  | .leaf (.record _ _ _ _), h => by simp [holdsRecord] at h

theorem unfoldItems_of_holdsRecord {keep : Bool} :
    ∀ items : List Document, itemsHoldRecord items = false → unfoldItems keep items = items
  | [], _ => rfl
  | v :: rest, h => by
      rw [itemsHoldRecord, Bool.or_eq_false_iff] at h
      rw [unfoldItems, unfold_of_holdsRecord v h.1, unfoldItems_of_holdsRecord rest h.2]

theorem unfoldEntries_of_holdsRecord {keep : Bool} :
    ∀ entries : List (String × Document), entriesHoldRecord entries = false →
      unfoldEntries keep true entries = entries
  | [], _ => rfl
  | (k, v) :: rest, h => by
      rw [entriesHoldRecord, Bool.or_eq_false_iff] at h
      rw [unfoldEntries, if_neg (by simp), unfold_of_holdsRecord v h.1,
        unfoldEntries_of_holdsRecord rest h.2]

end

/-- What is left of entries where those that hold nothing go. -/
theorem unfoldEntries_eq (keep : Bool) (entries : List (String × Document)) :
    unfoldEntries keep false entries =
      (entries.filter fun e => !e.2.isNull).map fun e => (e.1, unfold keep e.2) := by
  induction entries with
  | nil => rfl
  | cons e rest ih =>
      obtain ⟨k, v⟩ := e
      rw [unfoldEntries, List.filter_cons]
      cases hv : v.isNull <;> simp [ih]

end Value

/-! ### What is checked -/

namespace Field

/-- A value that a field has once arguments are checked: what is given under its key, read as its
type, or its default, which is read only if that is asked for. -/
def Holds (f : Field) (default given : Option Document) (v : Document) : Prop :=
  match given, default with
  | some w, _ => f.check w = .ok (.ok v)
  | none, some d => if f.isOn "validate_default" then f.check d = .ok (.ok v) else v = d
  | none, none => False

end Field

namespace Parameter

/-- A value that a parameter has once arguments are checked. -/
def Holds (p : Parameter) (entries : Properties) (v : Document) : Prop :=
  ∃ f default, Input.fieldOf? p = some (.ok (p.name, f, default)) ∧
    f.Holds default (Entries.get? entries (f.key p.name)) v

theorem fieldOf?_name {p : Parameter} {field : String × Field × Option Document}
    (h : Input.fieldOf? p = some (.ok field)) : field.1 = p.name := by
  unfold Input.fieldOf? at h
  split at h
  · obtain rfl := Except.ok.inj (Option.some.inj h)
    rfl
  · obtain ⟨f, -, h⟩ := Option.map_eq_some_iff.mp h
    obtain ⟨_, -, rfl⟩ := Outcome.map_ok.mp h
    rfl

end Parameter

namespace Input

/-- The fields of an input are those of the parameters that are shown, in order. -/
theorem fieldsOf?_ok {f : Function} {fields : List (String × Field × Option Document)}
    (h : fieldsOf? f = some (.ok fields)) :
    List.Forall₂ (fun p field => fieldOf? p = some (.ok field)) (f.parameters.filter isShown)
      fields := by
  unfold fieldsOf? at h
  split at h
  · cases h
  obtain ⟨found, hfound, hfields⟩ := Option.map_eq_some_iff.mp h
  clear h
  generalize f.parameters.filter isShown = ps at hfound
  induction ps generalizing found fields with
  | nil =>
      simp only [List.mapM_nil, Option.pure_def, Option.some.injEq] at hfound
      subst hfound
      obtain rfl := Except.ok.inj hfields
      exact .nil
  | cons p rest ih =>
      rw [List.mapM_cons] at hfound
      simp only [Option.bind_eq_bind, Option.bind_eq_some_iff, Option.pure_def,
        Option.some.injEq] at hfound
      obtain ⟨b, hb, bs, hbs, rfl⟩ := hfound
      rw [Outcome.mapM_cons] at hfields
      obtain ⟨field, hfield, hfields⟩ := Outcome.bind_ok.mp hfields
      obtain ⟨more, hmore, hfields⟩ := Outcome.bind_ok.mp hfields
      obtain rfl := Except.ok.inj hfields
      obtain rfl : b = .ok field := hfield
      exact .cons hb (ih bs hmore hbs)

/-- The values of fields pass if that of the first and those of the others do. -/
theorem cons_ok {x : Except Fault (Checked Document)} {more : Except Fault (Checked Properties)}
    {name : String} {vs : Properties}
    (h : (do
      let v ← x
      let more ← more
      return Checked.ap (v.map fun v rest => (name, v) :: rest) more) = .ok (.ok vs)) :
    ∃ v rest, x = .ok (.ok v) ∧ more = .ok (.ok rest) ∧ vs = (name, v) :: rest := by
  obtain ⟨first, hfirst, h⟩ := Outcome.bind_ok.mp h
  obtain ⟨others, hothers, h⟩ := Outcome.bind_ok.mp h
  obtain ⟨g, rest, hg, rfl, rfl⟩ := Checked.ap_ok.mp (Except.ok.inj h)
  obtain ⟨v, rfl, rfl⟩ := Outcome.map_ok.mp hg
  exact ⟨v, rest, hfirst, hothers, rfl⟩

theorem read_ok {entries : Properties} {fields : List (String × Field × Option Document)}
    {vs : Properties} (h : read entries fields = .ok (.ok vs)) :
    List.Forall₂ (fun field e => e.1 = field.1 ∧
      field.2.1.Holds field.2.2 (Entries.get? entries (field.2.1.key field.1)) e.2) fields vs := by
  induction fields generalizing vs with
  | nil =>
      obtain rfl := Except.ok.inj (Except.ok.inj h)
      exact .nil
  | cons field rest ih =>
      obtain ⟨name, f, default⟩ := field
      unfold read at h
      dsimp only at h
      split at h
      · rename_i given _ hgiven
        obtain ⟨v, more, hv, hmore, rfl⟩ := cons_ok h
        obtain ⟨checked, hcheck, hchecked⟩ := Outcome.map_ok.mp hv
        obtain rfl := Checked.named_ok.mp hchecked
        refine .cons ⟨rfl, ?_⟩ (ih hmore)
        dsimp only
        rw [hgiven]
        exact hcheck
      · rename_i d hgiven
        split at h
        · rename_i hon
          obtain ⟨v, more, hv, hmore, rfl⟩ := cons_ok h
          obtain ⟨checked, hcheck, hchecked⟩ := Outcome.map_ok.mp hv
          obtain rfl := Checked.named_ok.mp hchecked
          refine .cons ⟨rfl, ?_⟩ (ih hmore)
          dsimp only
          rw [hgiven]
          simpa [Field.Holds, hon] using hcheck
        · rename_i hoff
          obtain ⟨v, more, hv, hmore, rfl⟩ := cons_ok h
          refine .cons ⟨rfl, ?_⟩ (ih hmore)
          dsimp only
          rw [hgiven]
          simpa [Field.Holds, hoff] using (Except.ok.inj (Except.ok.inj hv)).symm
      · obtain ⟨v, more, hv, hmore, rfl⟩ := cons_ok h
        cases Except.ok.inj hv

end Input

namespace Tool

/-- **Checked arguments** are one value for each parameter that is shown, in order. -/
theorem checked_ok {t : Tool} {entries vs : Properties} (h : t.checked entries = .ok vs) :
    List.Forall₂ (fun p e => e.1 = p.name ∧ p.Holds entries e.2)
      (t.function.parameters.filter Input.isShown) vs := by
  unfold checked at h
  split at h
  · cases h
  · rename_i input hinput
    unfold Input.ofTool? at hinput
    split at hinput
    · rename_i fields hfields
      obtain rfl := Option.some.inj hinput
      unfold Input.check at h
      obtain ⟨values, hread, h⟩ := Outcome.bind_ok.mp h
      cases values with
      | error issues => cases h
      | ok values =>
          obtain rfl : values = vs := Except.ok.inj h
          refine forall₂_comp (Input.fieldsOf?_ok hfields) (Input.read_ok hread) ?_
          rintro p ⟨name, f, default⟩ e hp ⟨hname, hholds⟩
          obtain rfl : name = p.name := Parameter.fieldOf?_name hp
          exact ⟨hname, f, default, hp, hholds⟩
    · cases hinput

end Tool

/-! ### What is handed over -/

namespace Function

/-- A function all of whose parameters can be given by name, and by names that are distinct. -/
structure TakesNamed (f : Function) : Prop where
  distinct : (f.parameters.map Parameter.name).Nodup
  single : ∀ p ∈ f.parameters, p.rest = none

variable {f : Function} {named : Properties}

theorem positional_append_keywordOnly (hf : f.TakesNamed) :
    f.positional ++ f.keywordOnly = f.parameters := by
  unfold positional keywordOnly
  rw [← List.filter_append, List.takeWhile_append_dropWhile, List.filter_eq_self]
  intro p hp
  rw [hf.single p hp]
  rfl

theorem mem_parameters (hf : f.TakesNamed) {p : Parameter} :
    p ∈ f.parameters ↔ p ∈ f.positional ∨ p ∈ f.keywordOnly := by
  rw [← List.mem_append, positional_append_keywordOnly hf]

theorem takes_of_mem (hf : f.TakesNamed) {p : Parameter} (hp : p ∈ f.parameters) :
    f.takes p.name = true := by
  unfold takes
  rw [positional_append_keywordOnly hf, List.any_eq_true]
  exact ⟨p, hp, by simp⟩

/-- Named arguments that are all for parameters are fitted to these, or some are missed. -/
theorem bind_named (hf : f.TakesNamed)
    (hnamed : ∀ e ∈ named, ∃ p ∈ f.parameters, p.name = e.1) :
    f.bind [] named =
      match (f.positional.filter fun p => (valueOf named p).isNone).map Parameter.name,
        (f.keywordOnly.filter fun p => (valueOf named p).isNone).map Parameter.name with
      | [], [] => .ok (f.parameters.map fun p => (p.name, (valueOf named p).getD .null))
      | [], names => .error (f.missing "keyword-only" names)
      | names, _ => .error (f.missing "positional" names) := by
  have htakes : ∀ e ∈ named, f.takes e.1 = true := by
    intro e he
    obtain ⟨p, hp, hname⟩ := hnamed e he
    exact hname ▸ takes_of_mem hf hp
  have hown : named.filter (fun e => f.takes e.1) = named :=
    List.filter_eq_self.mpr htakes
  have hfind : (named.find? fun e => if f.takes e.1 then Entries.has ([] : Properties) e.1
      else (f.restName? .named).isNone) = none := by
    rw [List.find?_eq_none]
    intro e he
    simp [htakes e he, Entries.has]
  unfold bind
  simp only [List.zip_nil_right, List.nil_append]
  rw [hfind]
  simp only [hown, List.length_nil, Nat.not_lt_zero, false_and, if_false]
  cases (f.positional.filter fun p => (valueOf named p).isNone).map Parameter.name with
  | cons _ _ => rfl
  | nil =>
      cases (f.keywordOnly.filter fun p => (valueOf named p).isNone).map Parameter.name with
      | cons _ _ => rfl
      | nil =>
          exact congrArg Except.ok
            (List.map_congr_left fun p hp => by rw [hf.single p hp])

/-- Parameters that miss a value, among some. -/
theorem mem_missing {ps : List Parameter} {name : String}
    (h : name ∈ (ps.filter fun p => (valueOf named p).isNone).map Parameter.name) :
    ∃ p ∈ ps, p.name = name ∧ valueOf named p = none := by
  obtain ⟨p, hp, rfl⟩ := List.mem_map.mp h
  obtain ⟨hp, hnone⟩ := List.mem_filter.mp hp
  exact ⟨p, hp, rfl, Option.isNone_iff_eq_none.mp hnone⟩

/-- Arguments fit if every parameter has a value. -/
theorem bind_full (hf : f.TakesNamed) (hnamed : ∀ e ∈ named, ∃ p ∈ f.parameters, p.name = e.1)
    (h : ∀ p ∈ f.parameters, (valueOf named p).isSome = true) :
    f.bind [] named = .ok (f.parameters.map fun p => (p.name, (valueOf named p).getD .null)) := by
  have hnone (ps : List Parameter) (hps : ∀ p ∈ ps, p ∈ f.parameters) :
      ps.filter (fun p => (valueOf named p).isNone) = [] := by
    rw [List.filter_eq_nil_iff]
    intro p hp
    simpa [Option.isSome_iff_ne_none] using h p (hps p hp)
  rw [bind_named hf hnamed, hnone _ fun p hp => (mem_parameters hf).mpr (.inl hp),
    hnone _ fun p hp => (mem_parameters hf).mpr (.inr hp)]
  rfl

/-- Arguments do not fit if a parameter has no value, and the complaint is about such. -/
theorem bind_missing (hf : f.TakesNamed)
    (hnamed : ∀ e ∈ named, ∃ p ∈ f.parameters, p.name = e.1)
    (h : ∃ p ∈ f.parameters, valueOf named p = none) :
    ∃ sort names, f.bind [] named = .error (f.missing sort names) ∧ names ≠ [] ∧
      ∀ name ∈ names, ∃ p ∈ f.parameters, p.name = name ∧ valueOf named p = none := by
  have hmissing (ps : List Parameter) (hps : ∀ p ∈ ps, p ∈ f.parameters) (name : String)
      (hname : name ∈ (ps.filter fun p => (valueOf named p).isNone).map Parameter.name) :
      ∃ p ∈ f.parameters, p.name = name ∧ valueOf named p = none := by
    obtain ⟨p, hp, hrest⟩ := mem_missing hname
    exact ⟨p, hps p hp, hrest⟩
  -- slots are filled before the keyword-only ones, so they are complained about first
  have hslots := hmissing _ fun p hp => (mem_parameters hf).mpr (.inl hp)
  have hothers := hmissing _ fun p hp => (mem_parameters hf).mpr (.inr hp)
  rw [bind_named hf hnamed]
  rcases hpos : (f.positional.filter fun p => (valueOf named p).isNone).map Parameter.name with
    _ | ⟨name, names⟩
  · rcases hkey : (f.keywordOnly.filter fun p => (valueOf named p).isNone).map Parameter.name with
      _ | ⟨name, names⟩
    · obtain ⟨p, hp, hnone⟩ := h
      have hmem (ps : List Parameter) (hp : p ∈ ps) :
          p.name ∈ (ps.filter fun p => (valueOf named p).isNone).map Parameter.name :=
        List.mem_map_of_mem (List.mem_filter.mpr ⟨hp, by rw [hnone]; rfl⟩)
      rcases (mem_parameters hf).mp hp with hp | hp
      · exact absurd (hmem _ hp) (by simp [hpos])
      · exact absurd (hmem _ hp) (by simp [hkey])
    · exact ⟨_, _, rfl, by simp, hkey ▸ hothers⟩
  · exact ⟨_, _, rfl, by simp, hpos ▸ hslots⟩

end Function

namespace Tool

/-- What a function is given for a parameter: the checked value, with records as dictionaries, if it
is something and passed on; else the default of the parameter, if there is one. -/
def handed (t : Tool) (vs : Properties) (p : Parameter) : Option Document :=
  (((Entries.get? vs p.name).filter fun v =>
      !t.excluded.contains p.name && !v.isNull).map (Value.unfold false)).or p.default

/-- The named arguments that checked ones become. -/
def passed (t : Tool) (vs : Properties) : Properties :=
  present (vs.filter fun e => !t.excluded.contains e.1)

variable {t : Tool} {vs : Properties}

theorem valueOf_passed (hd : (vs.map Prod.fst).Nodup) (p : Parameter) :
    Function.valueOf (t.passed vs) p = t.handed vs p := by
  unfold Function.valueOf handed passed present
  rw [Value.unfoldEntries_eq, Entries.get?_map, Entries.get?_filter, Entries.get?_filter hd,
    Option.filter_filter]
  exact hd.sublist (List.filter_sublist.map _)

/-- Checked arguments have the names of the parameters that are shown. -/
theorem checked_names {entries : Properties} (h : t.checked entries = .ok vs) :
    vs.map Prod.fst = (t.function.parameters.filter Input.isShown).map Parameter.name := by
  have hsame : List.Forall₂ (· = ·)
      ((t.function.parameters.filter Input.isShown).map Parameter.name) (vs.map Prod.fst) := by
    rw [List.forall₂_map_left_iff, List.forall₂_map_right_iff]
    exact (checked_ok h).imp fun _ _ h => h.1.symm
  rw [List.forall₂_eq_eq_eq] at hsame
  exact hsame.symm

/-- What comes of calling a tool: the arguments are written out, its function is called, and what
that gives is written out. -/
theorem invoke_value (t : Tool) (named : Properties) :
    (t.invoke named).2 = (do
      (Value.obj named : Document).writable
      let v ← t.function.call [] named
      v.writable
      return v) := by
  unfold invoke
  dsimp only
  cases (Value.obj named : Document).writable with
  | error f => rfl
  | ok _ =>
      cases t.function.call [] named with
      | error f => rfl
      | ok v =>
          simp only [Outcome.ok_bind]
          cases v.writable <;> rfl

/-- A value that is something without records, and passed on, is handed over as it is. -/
theorem handed_kept (hd : (vs.map Prod.fst).Nodup) {p : Parameter} {v : Document}
    (hmem : (p.name, v) ∈ vs) (hnull : v.isNull = false)
    (hpassed : t.excluded.contains p.name = false) (hrecord : v.holdsRecord = false) :
    t.handed vs p = some v := by
  have hget : Entries.get? vs p.name = some v := Entries.get?_of_mem hd hmem
  unfold handed
  rw [hget, hpassed, Option.filter_some, hnull, if_pos (show (!false && !false) = true from rfl),
    Option.map_some, Value.unfold_of_holdsRecord v hrecord]
  rfl

theorem handed_left (hd : (vs.map Prod.fst).Nodup) {p : Parameter} {v : Document}
    (hmem : (p.name, v) ∈ vs) (h : v.isNull = true ∨ t.excluded.contains p.name = true) :
    t.handed vs p = p.default := by
  have hget : Entries.get? vs p.name = some v := Entries.get?_of_mem hd hmem
  unfold handed
  rw [hget, Option.filter_some]
  rcases h with h | h
  · rw [h, Bool.not_true, Bool.and_false]
    rfl
  · rw [h]
    rfl

theorem handed_absent {p : Parameter} (h : p.name ∉ vs.map Prod.fst) :
    t.handed vs p = p.default := by
  unfold handed
  rw [Entries.get?_eq_none.mpr h]
  rfl

theorem passed_names {e : String × Document} (he : e ∈ t.passed vs) : e.1 ∈ vs.map Prod.fst := by
  unfold passed present at he
  rw [Value.unfoldEntries_eq] at he
  obtain ⟨d, hd, rfl⟩ := List.mem_map.mp he
  exact List.mem_map.mpr ⟨d, (List.mem_filter.mp (List.mem_filter.mp hd).1).1, rfl⟩

end Tool

namespace Call

/-- The result of a call, from what came of it. -/
def told (c : Call) (t : Tool) (outcome : Except Fault Document) : Result :=
  match outcome with
  | .ok v => { id := c.id, name := some t.name, value := v }
  | .error f => c.failed t.name f

/-- How a call is run once its arguments are checked. -/
structure HandsOver (tools : List (String × Tool)) (c : Call) (t : Tool) (entries vs : Properties) :
    Prop where
  /-- There is one checked value for each parameter that is shown. -/
  values : List.Forall₂ (fun p e => e.1 = p.name ∧ p.Holds entries e.2)
    (t.function.parameters.filter Input.isShown) vs
  /-- A checked value is handed over as it is, if it is something without records and is passed
  on. -/
  kept : ∀ p v, (p.name, v) ∈ vs → v.isNull = false → t.excluded.contains p.name = false →
    v.holdsRecord = false → t.handed vs p = some v
  /-- A parameter has its default where there is nothing to be passed on. -/
  left : ∀ p v, (p.name, v) ∈ vs → v.isNull = true ∨ t.excluded.contains p.name = true →
    t.handed vs p = p.default
  hidden : ∀ p ∈ t.function.parameters, Input.isShown p = false → t.handed vs p = p.default
  /-- The tool is called, and only once. -/
  once : ∃ records, (run tools c).1 = t.invocation :: records ∧
    ∀ r ∈ records, r.isInvocation = false
  /-- If each parameter has a value, the function is run on these, and what it returns is the
  result.  Values that are too long to be written out are refused before and after. -/
  full : (∀ p ∈ t.function.parameters, (t.handed vs p).isSome = true) →
    (run tools c).2 = .ok (c.told t (do
      (Value.obj (t.passed vs) : Document).writable
      let v ← t.function.run
        (t.function.parameters.map fun p => (p.name, (t.handed vs p).getD .null))
      v.writable
      return v))
  /-- If some have none, that is the result, and the function is not run. -/
  missing : (∃ p ∈ t.function.parameters, t.handed vs p = none) →
    ∃ sort names, names ≠ [] ∧
      (∀ name ∈ names, ∃ p ∈ t.function.parameters, p.name = name ∧ t.handed vs p = none) ∧
      (run tools c).2 = .ok (c.told t (do
        (Value.obj (t.passed vs) : Document).writable
        .error (t.function.missing sort names)))

variable {tools : List (String × Tool)} {c : Call} {t : Tool} {entries vs : Properties}

/-- A call whose arguments are checked calls its tool. -/
theorem run_checked (ht : Entries.get? tools c.name = some t) (h : c.checkedArguments t = .ok vs) :
    run tools c = ((t.invoke (t.passed vs)).1, .ok (c.told t (t.invoke (t.passed vs)).2)) := by
  unfold run
  rw [ht]
  dsimp only
  rw [h]
  rfl

/-- **What a function is called with** are the checked values, but for those that are nothing or are
not passed on. -/
theorem handsOver (ht : Entries.get? tools c.name = some t) {given : Option Properties}
    (hparsed : c.parsed = .ok given) (hchecked : t.checked (given.getD []) = .ok vs)
    (hf : t.function.TakesNamed) : HandsOver tools c t (given.getD []) vs := by
  have hnames := Tool.checked_names hchecked
  have hd : (vs.map Prod.fst).Nodup := by
    rw [hnames]
    exact hf.distinct.sublist (List.filter_sublist.map _)
  have harguments : c.checkedArguments t = .ok vs := by
    unfold checkedArguments
    rw [hparsed]
    exact hchecked
  have hpassed : ∀ e ∈ t.passed vs, ∃ p ∈ t.function.parameters, p.name = e.1 := by
    intro e he
    have hmem := Tool.passed_names he
    rw [hnames] at hmem
    obtain ⟨p, hp, hname⟩ := List.mem_map.mp hmem
    exact ⟨p, List.mem_of_mem_filter hp, hname⟩
  -- from here on a parameter has the value that it is handed
  have hvalueOf (p : Parameter) := Tool.valueOf_passed (t := t) hd p
  refine ⟨Tool.checked_ok hchecked, fun p v => Tool.handed_kept hd, fun p v => Tool.handed_left hd,
    fun p hp hhidden => Tool.handed_absent ?_, ?_, ?_, ?_⟩
  · rw [hnames]
    intro hmem
    obtain ⟨q, hq, hname⟩ := List.mem_map.mp hmem
    obtain ⟨hq, hshown⟩ := List.mem_filter.mp hq
    obtain rfl := List.inj_on_of_nodup_map hf.distinct hq hp hname
    rw [hhidden] at hshown
    cases hshown
  · rw [run_checked ht harguments]
    obtain ⟨records, hrecords, hquiet⟩ := t.invoke_notes (t.passed vs)
    exact ⟨records, hrecords, fun r hr => (hquiet r hr).2⟩
  · intro hfull
    rw [run_checked ht harguments, Tool.invoke_value]
    unfold Function.call
    rw [Function.bind_full hf hpassed fun p hp => by rw [hvalueOf]; exact hfull p hp]
    simp only [hvalueOf, Outcome.ok_bind]
  · intro hmissing
    obtain ⟨sort, names, hbind, hnonempty, hall⟩ := Function.bind_missing hf hpassed (by
      obtain ⟨p, hp, hnone⟩ := hmissing
      exact ⟨p, hp, (hvalueOf p).trans hnone⟩)
    refine ⟨sort, names, hnonempty, fun name hname => ?_, ?_⟩
    · obtain ⟨p, hp, hpname, hnone⟩ := hall name hname
      exact ⟨p, hp, hpname, (hvalueOf p).symm.trans hnone⟩
    · rw [run_checked ht harguments, Tool.invoke_value]
      unfold Function.call
      rw [hbind]
      rfl

/-! ### Nothing as an argument -/

/-- A function of a text that may be left out or be nothing, and that gives back what it has. -/
def greeting : Tool where
  name := "greet"
  function := {
    name := "greet"
    parameters := [{
      name := "who"
      annotation := some { kind := .optional .str }
      default := some (.str "world") }] }

/-- A call of the function. -/
def greet (who : Document) : Call := ⟨"t1", "greet", .entries [("who", who)], none⟩

theorem greeting_takesNamed : greeting.function.TakesNamed where
  distinct := by decide
  single := by simp [greeting]

/-- Checked arguments that are one value under one name, told by a test that only it passes. -/
theorem eq_entry_of_test {x : Except Fault Properties} {name : String} {v : Document}
    (test : Document → Bool) (htest : ∀ w, test w = true → w = v)
    (h : (match x with
      | .ok [(k, w)] => k == name && test w
      | _ => false) = true) : x = .ok [(name, v)] := by
  split at h
  · obtain ⟨hname, hw⟩ := Bool.and_eq_true_iff.mp h
    rw [eq_of_beq hname, htest _ hw]
  · cases h

/-- A text that is given is handed over. -/
theorem text_handed_over :
    HandsOver [("greet", greeting)] (greet (.str "Ada")) greeting [("who", .str "Ada")]
        [("who", .str "Ada")] ∧
      ∀ p ∈ greeting.function.parameters,
        greeting.handed [("who", .str "Ada")] p = some (.str "Ada") := by
  have hparsed : (greet (.str "Ada")).parsed = .ok (some [("who", .str "Ada")]) := rfl
  have hchecked : greeting.checked [("who", .str "Ada")] = .ok [("who", .str "Ada")] :=
    eq_entry_of_test (fun w => w.asString? == some "Ada")
      (fun w hw => by cases w <;> simp_all [Value.asString?]) (by decide +kernel)
  have h : HandsOver [("greet", greeting)] (greet (.str "Ada")) greeting [("who", .str "Ada")]
      [("who", .str "Ada")] := handsOver rfl hparsed hchecked greeting_takesNamed
  refine ⟨h, fun p hp => ?_⟩
  obtain rfl := List.mem_singleton.mp hp
  exact h.kept _ _ (List.mem_singleton.mpr rfl) rfl (by decide +kernel) rfl

/-- **Nothing is not handed over**: a parameter is left to its default where its checked value is
nothing. -/
theorem nothing_not_handed_over :
    ¬ ∀ (tools : List (String × Tool)) (c : Call) (t : Tool) (vs : Properties) (v : Document),
      Entries.get? tools c.name = some t → c.checkedArguments t = .ok vs →
      t.function.TakesNamed → (∀ p ∈ t.function.parameters, Input.isShown p = true) →
      t.function.run vs = .ok v → ∃ r, (run tools c).2 = .ok r ∧ r.value = v := by
  intro h
  have hchecked : (greet .null).checkedArguments greeting = .ok [("who", .null)] :=
    eq_entry_of_test Value.isNull (fun w hw => by cases w <;> simp_all [Value.isNull])
      (by decide +kernel)
  obtain ⟨r, hrun, hvalue⟩ := h [("greet", greeting)] (greet .null) greeting
    [("who", .null)] (.obj [("who", .null)]) rfl hchecked greeting_takesNamed
    (by decide +kernel) rfl
  have hworld : (run [("greet", greeting)] (greet .null)).2.toOption.map
      (fun r => (r.value.get? "who").bind Value.asString?) = some (some "world") := by
    decide +kernel
  rw [hrun] at hworld
  have hnull : (r.value.get? "who").bind Value.asString? = some "world" := Option.some.inj hworld
  rw [hvalue] at hnull
  cases hnull

end Call

end Parley
