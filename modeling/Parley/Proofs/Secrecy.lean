/-
What is shown of secrets.

Settings are shown with a mask of fixed width in the place of every secret.  So whoever sees
them sees whether a secret is set, and nothing else of it: two callers who supply the same
but for the texts of secrets are shown the same, wherever the texts come from.  A secret
may be told apart only by the file of variables that it stands in.  A text that no variable
can have ends the reading of the file, and a text that refers to the variable of a secret
is as much as the secret itself; that one is then no plain text which the two callers share.
-/
import Mathlib.Data.List.Nodup
import Parley.Proofs.Dependence
import Parley.Settings.Catalogue

namespace Parley

/-! ### What a file gives -/

namespace Environment

variable {env env' : Environment} {name text : String} {pairs : List (String × Option String)}

/-- The texts that a process takes from a file of variables, with references replaced: none where
files are not to be read. -/
def texts (env : Environment) (f : File) : Except Fault (List (String × Option String)) :=
  if isDisabled env then .ok [] else f.characters.map fun cs => resolved env (bindings cs)

theorem load_eq (env : Environment) (f : File) :
    load env f = match texts env f with
      | .ok pairs => fill pairs env
      | .error fault => (env, some fault) := by
  unfold load texts
  split
  · rfl
  · cases f.characters <;> rfl

theorem nodup_resolved (env : Environment) (bs : List Binding) :
    ((resolved env bs).map Prod.fst).Nodup := by
  have hfold (acc : List (String × Option String)) (hacc : (acc.map Prod.fst).Nodup) :
      ((bs.foldl (fun acc b => Entries.put acc b.name
        (b.text.map (expand (meaning env acc)))) acc).map Prod.fst).Nodup := by
    induction bs generalizing acc with
    | nil => exact hacc
    | cons b rest ih => exact ih _ (Entries.nodup_put hacc _ _)
  exact hfold [] List.nodup_nil

theorem nodup_texts {f : File} (h : texts env f = .ok pairs) : (pairs.map Prod.fst).Nodup := by
  unfold texts at h
  split at h
  · obtain rfl := Except.ok.inj h
    exact List.nodup_nil
  · obtain ⟨cs, -, rfl⟩ := Outcome.map_ok.mp h
    exact nodup_resolved env _

/-- Whether a text can be set does not depend on what is set already. -/
theorem set_error_congr {f : Fault} (h : env.set name text = .error f) (env' : Environment) :
    env'.set name text = .error f := by
  have hsame := set_congr env env' name text
  rw [h] at hsame
  cases hset : env'.set name text with
  | error f' =>
      rw [hset] at hsame
      cases hsame
      rfl
  | ok env'' =>
      rw [hset] at hsame
      cases hsame

theorem get?_eq_none_of_has (h : Entries.has env name = false) : Entries.get? env name = none := by
  rwa [Value.has_eq_isSome, Option.isSome_eq_false_iff, Option.isNone_iff_eq_none] at h

/-- What ends the reading of a file is a text that a variable which is not set cannot have. -/
theorem fill_error {f : Fault} (h : (fill pairs env).2 = some f) :
    ∃ name text, (name, some text) ∈ pairs ∧ Entries.get? env name = none ∧
      env.set name text = .error f := by
  induction pairs generalizing env with
  | nil => cases h
  | cons e rest ih =>
      rcases fill_cons_cases e rest env with ⟨hfill, -⟩ |
        ⟨text, htext, hunset, ⟨-, hfill⟩ | ⟨f', hset, hfill⟩⟩
      · rw [hfill] at h
        obtain ⟨name, text, hmem, hnone, hset⟩ := ih h
        exact ⟨name, text, List.mem_cons_of_mem _ hmem, hnone, hset⟩
      · rw [hfill] at h
        obtain ⟨name, text', hmem, hnone, hset⟩ := ih h
        refine ⟨name, text', List.mem_cons_of_mem _ hmem, ?_, set_error_congr hset env⟩
        rw [Entries.get?_put] at hnone
        split at hnone
        · cases hnone
        · exact hnone
      · rw [hfill] at h
        obtain rfl := Option.some.inj h
        exact ⟨e.1, text, by rw [← htext]; exact List.mem_cons_self,
          get?_eq_none_of_has hunset, hset⟩

/-- A variable that is gone over without a fault has its text afterwards, unless it was set. -/
theorem fill_cons_done {e : String × Option String} (h : (fill (e :: pairs) env).2 = none) :
    ∃ env', fill (e :: pairs) env = fill pairs env' ∧
      (∀ name, Entries.get? env' name =
        (Entries.get? env name).or (if e.1 = name then e.2 else none)) ∧
      ∀ text, e.2 = some text → Entries.get? env e.1 = none → ∀ f, env.set e.1 text ≠ .error f := by
  rcases fill_cons_cases e pairs env with ⟨hfill, hkept⟩ |
    ⟨text, htext, hunset, ⟨hset, hfill⟩ | ⟨f, -, hfill⟩⟩
  · have hset (text : String) (htext : e.2 = some text) : ∃ u, Entries.get? env e.1 = some u :=
      has_iff.mp (hkept (by rw [htext]; rfl))
    refine ⟨env, hfill, fun name => ?_, fun text htext hnone => ?_⟩
    · split
      · rename_i hname
        subst hname
        cases htext : e.2 with
        | none => rw [Option.or_none]
        | some text =>
            obtain ⟨u, hu⟩ := hset text htext
            rw [hu, Option.some_or]
      · rw [Option.or_none]
    · obtain ⟨u, hu⟩ := hset text htext
      cases hnone.symm.trans hu
  · refine ⟨_, hfill, fun name => ?_, fun text' htext' _ f hf => ?_⟩
    · rw [Entries.get?_put]
      split
      · rename_i hname
        rw [← hname, get?_eq_none_of_has hunset, htext, Option.none_or]
      · rw [Option.or_none]
    · obtain rfl := Option.some.inj (htext.symm.trans htext')
      cases hset.symm.trans hf
  · rw [hfill] at h
    cases h

/-- A file that is read through has set what was not set, and all its texts could be. -/
theorem fill_done (hd : (pairs.map Prod.fst).Nodup) (h : (fill pairs env).2 = none) :
    (∀ name, Entries.get? (fill pairs env).1 name =
      (Entries.get? env name).or (Entries.get? pairs name).join) ∧
    ∀ name text, Entries.get? pairs name = some (some text) → Entries.get? env name = none →
      ∀ f, env.set name text ≠ .error f := by
  induction pairs generalizing env with
  | nil => simp [fill]
  | cons e rest ih =>
      rw [List.map_cons, List.nodup_cons] at hd
      have hrest : Entries.get? rest e.1 = none := Entries.get?_eq_none.mpr hd.1
      obtain ⟨env', hfill, hstep, hsettable⟩ := fill_cons_done h
      rw [hfill] at h ⊢
      obtain ⟨hget, hsettable'⟩ := ih hd.2 h
      refine ⟨fun name => ?_, fun name text hpair hnone f hf => ?_⟩
      · rw [hget, hstep, Entries.get?_cons]
        by_cases hname : e.1 = name
        · rw [if_pos hname, if_pos hname, ← hname, hrest]
          simp
        · rw [if_neg hname, if_neg hname, Option.or_none]
      · rw [Entries.get?_cons] at hpair
        by_cases hname : e.1 = name
        · subst hname
          rw [if_pos rfl] at hpair
          exact hsettable text (Option.some.inj hpair) hnone f hf
        · rw [if_neg hname] at hpair
          refine hsettable' name text hpair ?_ f (set_error_congr hf env')
          rw [hstep, hnone, if_neg hname, Option.none_or]

end Environment

/-! ### What is shown of values -/

namespace Held

/-- What is shown of a value, if anything is: of a secret it is the mask. -/
def face (h : Held) : Option String := if h.isNull then none else some h.literal

end Held

namespace Settings

/-- What is shown of each value. -/
def faces (values : List (String × Held)) : List (String × Option String) :=
  values.map fun e => (e.1, e.2.face)

theorem map_present (values : List (String × Held)) :
    (values.filter fun e => !e.2.isNull).map (fun e => e.1 ++ "=" ++ e.2.literal) =
      (faces values).filterMap fun e => e.2.map fun text => e.1 ++ "=" ++ text := by
  induction values with
  | nil => rfl
  | cons e rest ih =>
      unfold faces at ih ⊢
      rw [List.map_cons, List.filterMap_cons, ← ih]
      cases hnull : e.2.isNull with
      | true => rw [Held.face, hnull, List.filter_cons_of_neg (by simp [hnull])]; rfl
      | false => rw [Held.face, hnull, List.filter_cons_of_pos (by simp [hnull])]; rfl

theorem shown_eq (s : Settings) : s.shown = s.schema.name ++ "(" ++ ", ".intercalate
    ((faces s.values).filterMap fun e => e.2.map fun text => e.1 ++ "=" ++ text) ++ ")" := by
  unfold shown present
  rw [map_present]

/-- Settings with the same faces are shown the same. -/
theorem shown_congr {s t : Settings} (hschema : s.schema = t.schema)
    (hfaces : faces s.values = faces t.values) : s.shown = t.shown := by
  rw [shown_eq, shown_eq, hschema, hfaces]

end Settings

/-! ### Secrets -/

namespace Schema

/-- The variables that settings are read from. -/
def origins (schema : Schema) : List String :=
  schema.settings.map fun d => schema.variableOf d.name

/-- The settings that are secret. -/
def secrets (schema : Schema) : List Setting := schema.settings.filter fun d => d.kind == .secret

/-- The variables that secrets are read from. -/
def secretVariables (schema : Schema) : List String :=
  schema.secrets.map fun d => schema.variableOf d.name

variable {schema : Schema} {d : Setting}

theorem mem_secrets : d ∈ schema.secrets ↔ d ∈ schema.settings ∧ d.kind = .secret := by
  simp [secrets]

/-- Where each setting has its own variable, no plain setting reads that of a secret. -/
theorem not_mem_secretVariables (h : schema.origins.Nodup) (hd : d ∈ schema.settings)
    (hplain : d.kind ≠ .secret) : schema.variableOf d.name ∉ schema.secretVariables := by
  intro hmem
  obtain ⟨d', hd', hvariable⟩ := List.mem_map.mp hmem
  obtain ⟨hd', hsecret⟩ := mem_secrets.mp hd'
  obtain rfl := List.inj_on_of_nodup_map h hd' hd hvariable
  exact hplain hsecret

/-- Nor does it have the name of one. -/
theorem not_mem_secretNames (h : schema.origins.Nodup) (hd : d ∈ schema.settings)
    (hplain : d.kind ≠ .secret) : d.name ∉ schema.secrets.map Setting.name := by
  intro hmem
  obtain ⟨d', hd', hname⟩ := List.mem_map.mp hmem
  refine not_mem_secretVariables h hd hplain (List.mem_map.mpr ⟨d', hd', ?_⟩)
  rw [hname]

end Schema

namespace Settings

/-- What settings are made from: what the caller gives, a file of variables, and the session with
the variables of the process. -/
structure Supply where
  arguments : List (String × Given) := []
  file : Environment.File := {}
  session : Session := {}

namespace Supply

/-- What the caller gives for a setting; the absent value counts as none. -/
def given? (x : Supply) (name : String) : Option Given := Entries.get? (given x.arguments) name

/-- The text of a variable of the process. -/
def process? (x : Supply) (name : String) : Option String :=
  Entries.get? x.session.environment name

/-- The texts that the process takes from the file. -/
def texts (x : Supply) : Except Fault (List (String × Option String)) :=
  (fileFor x.arguments x.file).bind fun f => Environment.texts x.session.environment f

/-- The text that the process takes from the file for a variable. -/
def text? (x : Supply) (name : String) : Option String :=
  x.texts.toOption.bind fun pairs => (Entries.get? pairs name).join

/-- Whether a setting is set: by the caller, in the process or in the file. -/
def Sets (x : Supply) (schema : Schema) (d : Setting) : Prop :=
  (x.given? d.name).isSome ∨ (x.process? (schema.variableOf d.name)).isSome ∨
    (x.text? (schema.variableOf d.name)).isSome

instance (x : Supply) (schema : Schema) (d : Setting) : Decidable (x.Sets schema d) :=
  inferInstanceAs (Decidable (_ ∨ _ ∨ _))

/-- What the caller gives for a setting is a text, if anything. -/
def IsTextual (x : Supply) (d : Setting) : Prop :=
  ∀ v, x.given? d.name = some v → ∃ s, v = .str s

theorem isTextual {x : Supply} (h : ∀ e ∈ x.arguments, ∃ s, e.2 = .str s) (d : Setting) :
    x.IsTextual d :=
  fun _ hv => h _ (List.mem_of_mem_filter (List.mem_of_mem_filter (Entries.mem_of_get? hv)))

/-- The settings that are made of it, or what making them ends with. -/
def made (x : Supply) (schema : Schema) : Except Halt Settings :=
  (load schema x.arguments x.file x.session).1

/-- What is shown of the settings that are made of it; nothing where none are made. -/
def shown? (x : Supply) (schema : Schema) : Option String :=
  (x.made schema).toOption.map Settings.shown

end Supply

/-- Two supplies agree on everything but the texts of secrets, and the same secrets are set. -/
structure AgreeButSecrets (schema : Schema) (x y : Supply) : Prop where
  arguments : ∀ name, name ∉ schema.secrets.map Setting.name → x.given? name = y.given? name
  secrets : ∀ d ∈ schema.secrets,
    x.given? d.name = y.given? d.name ∨ (x.IsTextual d ∧ y.IsTextual d)
  process : ∀ name, name ∉ schema.secretVariables → x.process? name = y.process? name
  /-- Both files can be read, or neither. -/
  read : x.texts.isOk = y.texts.isOk
  texts : ∀ name, name ∉ schema.secretVariables → x.text? name = y.text? name
  set : ∀ d ∈ schema.secrets, x.Sets schema d ↔ y.Sets schema d

/-- No settings are made of a supply because its file gives the variable of a secret, which is not
set, a text that it cannot have. -/
def Unsettable (schema : Schema) (x : Supply) : Prop :=
  ∃ name ∈ schema.secretVariables, ∃ text fault, x.text? name = some text ∧
    x.process? name = none ∧ x.session.environment.set name text = .error fault ∧
    x.made schema = .error (.fault fault)

theorem not_unsettable {schema : Schema} {x : Supply} (h : (x.made schema).isOk = true) :
    ¬ Unsettable schema x := by
  rintro ⟨_, _, _, _, _, _, _, hmade⟩
  rw [hmade] at h
  cases h

/-! ### How settings are made -/

namespace Supply

variable {x y : Supply} {schema : Schema}

/-- Settings with what was said about the file beside them. -/
def withFile (x : Supply) (s : Settings) : Settings :=
  { s with
    hasFile := x.file.bytes.isSome || !((Entries.get? x.arguments pathArgument).getD .null).isNull
    encoding := encodingOf x.arguments x.file }

/-- The ways in which making settings goes: the file cannot be read, one of its texts cannot be set,
or the settings are resolved with what was set and what the file gives beside it. -/
inductive Makes (schema : Schema) (x : Supply) : Prop
  | unread {f : Fault} (htexts : x.texts = .error f) (h : x.made schema = .error (.fault f))
  | unset {name text : String} {f : Fault} (hread : x.texts.isOk = true)
      (htext : x.text? name = some text) (hnone : x.process? name = none)
      (hset : x.session.environment.set name text = .error f)
      (h : x.made schema = .error (.fault f))
  | resolved {env : Environment} (hread : x.texts.isOk = true)
      (hset : ∀ name text, x.text? name = some text → x.process? name = none →
        ∀ f, x.session.environment.set name text ≠ .error f)
      (henv : ∀ name, Entries.get? env name = (x.process? name).or (x.text? name))
      (h : x.made schema =
        ((resolve schema (ownArguments x.arguments) env).map x.withFile).mapError Halt.fault)

theorem makes (schema : Schema) (x : Supply) : Makes schema x := by
  have hmade : x.made schema = _ :=
    congrArg Prod.fst (load_apply schema x.arguments x.file x.session)
  cases hfile : fileFor x.arguments x.file with
  | error f =>
      rw [hfile] at hmade
      exact .unread (by unfold texts; rw [hfile]; rfl) hmade
  | ok file =>
      have htexts : x.texts = Environment.texts x.session.environment file := by
        unfold texts
        rw [hfile]
        rfl
      rw [hfile] at hmade
      dsimp only at hmade
      rw [loadFile_apply, Environment.load_eq] at hmade
      cases hpairs : Environment.texts x.session.environment file with
      | error f =>
          rw [hpairs] at hmade
          exact .unread (htexts.trans hpairs) hmade
      | ok pairs =>
          have hread : x.texts = .ok pairs := htexts.trans hpairs
          have htext (name : String) : x.text? name = (Entries.get? pairs name).join := by
            unfold text?
            rw [hread]
            rfl
          have hdistinct := Environment.nodup_texts hpairs
          rw [hpairs] at hmade
          dsimp only at hmade
          cases hfill : (Environment.fill pairs x.session.environment).2 with
          | some f =>
              rw [hfill] at hmade
              obtain ⟨name, text, hmem, hnone, hset⟩ := Environment.fill_error hfill
              refine .unset (by rw [hread]; rfl) ?_ hnone hset hmade
              rw [htext, Entries.get?_of_mem hdistinct hmem]
              rfl
          | none =>
              rw [hfill] at hmade
              obtain ⟨hget, hset⟩ := Environment.fill_done hdistinct hfill
              refine .resolved (by rw [hread]; rfl) (fun name text h => hset name text ?_)
                (fun name => (hget name).trans ?_) hmade
              · rw [htext] at h
                exact Option.join_eq_some_iff.mp h
              · rw [htext]
                rfl

theorem shown?_of_error {e : Halt} (h : x.made schema = .error e) : x.shown? schema = none := by
  unfold shown?
  rw [h]
  rfl

theorem shown?_of_resolved {env : Environment}
    (h : x.made schema =
      ((resolve schema (ownArguments x.arguments) env).map x.withFile).mapError Halt.fault) :
    x.shown? schema =
      (resolve schema (ownArguments x.arguments) env).toOption.map Settings.shown := by
  unfold shown?
  rw [h]
  cases resolve schema (ownArguments x.arguments) env <;> rfl

end Supply

/-! ### Values of secrets -/

section Values

variable {schema : Schema} {given given' : List (String × Given)} {env env' : Environment}
  {d : Setting}

/-- Of a secret that is given as a text, if the caller gives it, only whether it is set shows. -/
theorem face_valueOf_secret (hd : d.kind = .secret)
    (htext : ∀ v, Entries.get? given d.name = some v → ∃ s, v = .str s) :
    (valueOf schema given env d).map Held.face =
      .ok (if (Entries.get? given d.name).isSome ∨
          (Entries.get? env (schema.variableOf d.name)).isSome
        then some Held.mask else (Held.plain d.default).face) := by
  unfold valueOf
  rw [hd]
  cases hgiven : Entries.get? given d.name with
  | some v =>
      obtain ⟨s, rfl⟩ := htext v hgiven
      rfl
  | none => cases Entries.get? env (schema.variableOf d.name) <;> rfl

theorem valueOf_congr (hgiven : Entries.get? given d.name = Entries.get? given' d.name)
    (henv : Entries.get? env (schema.variableOf d.name) =
      Entries.get? env' (schema.variableOf d.name)) :
    valueOf schema given env d = valueOf schema given' env' d := by
  unfold valueOf
  rw [hgiven, henv]

/-- What the caller gives for a setting is its value, whatever the variables are. -/
theorem valueOf_given {v : Given} (hgiven : Entries.get? given d.name = some v) :
    valueOf schema given env d = .ok (accept d.kind v) := by
  unfold valueOf
  rw [hgiven]

theorem faces_valuesOf_cons (rest : List Setting) :
    (valuesOf schema given env (d :: rest)).map faces =
      ((valueOf schema given env d).map Held.face).bind fun face =>
        ((valuesOf schema given env rest).map faces).map fun more => (d.name, face) :: more := by
  rw [valuesOf]
  cases valueOf schema given env d with
  | error f => rfl
  | ok h => cases valuesOf schema given env rest <;> rfl

theorem faces_valuesOf {settings : List Setting}
    (h : ∀ d ∈ settings, (valueOf schema given env d).map Held.face =
      (valueOf schema given' env' d).map Held.face) :
    (valuesOf schema given env settings).map faces =
      (valuesOf schema given' env' settings).map faces := by
  induction settings with
  | nil => rfl
  | cons d rest ih =>
      rw [faces_valuesOf_cons, faces_valuesOf_cons, h d List.mem_cons_self,
        ih fun t ht => h t (List.mem_cons_of_mem _ ht)]

theorem unknown_eq_nil :
    unknown schema given = [] ↔
      ∀ name, (Entries.get? given name).isSome → name ∈ schema.names := by
  unfold unknown
  rw [← List.length_eq_zero_iff, List.length_mergeSort, List.length_eq_zero_iff,
    List.filter_eq_nil_iff]
  simp only [Bool.not_eq_true', Bool.not_eq_false, List.contains_eq_mem, decide_eq_true_eq]
  refine forall_congr' fun name => imp_congr_left ?_
  rw [← not_iff_not, Option.not_isSome_iff_eq_none, Entries.get?_eq_none]

end Values

/-- Settings whose values have the same faces are shown the same, and one caller's are refused only
with the other's. -/
theorem shown_resolve {schema : Schema} {arguments arguments' : List (String × Given)}
    {env env' : Environment}
    (hunknown : unknown schema (arguments.filter fun e => !e.2.isNull) = [] ↔
      unknown schema (arguments'.filter fun e => !e.2.isNull) = [])
    (hvalues :
      (valuesOf schema (arguments.filter fun e => !e.2.isNull) env schema.settings).map faces =
        (valuesOf schema (arguments'.filter fun e => !e.2.isNull) env' schema.settings).map faces) :
    (resolve schema arguments env).toOption.map shown =
      (resolve schema arguments' env').toOption.map shown := by
  unfold resolve
  dsimp only
  split <;> rename_i hknown
  · rw [hunknown.mp hknown]
    dsimp only
    generalize valuesOf schema (arguments.filter fun e => !e.2.isNull) env schema.settings = v,
      valuesOf schema (arguments'.filter fun e => !e.2.isNull) env' schema.settings = v' at hvalues
    rcases v with f | values <;> rcases v' with f' | values'
    · rfl
    · cases hvalues
    · cases hvalues
    · exact congrArg some (shown_congr rfl (Except.ok.inj hvalues))
  · split <;> rename_i hknown'
    · exact absurd (hunknown.mpr hknown') hknown
    · rfl

/-! ### Two callers -/

namespace AgreeButSecrets

variable {schema : Schema} {x y : Supply}

theorem symm (h : AgreeButSecrets schema x y) : AgreeButSecrets schema y x where
  arguments name hname := (h.arguments name hname).symm
  secrets d hd := (h.secrets d hd).imp Eq.symm And.symm
  process name hname := (h.process name hname).symm
  read := h.read.symm
  texts name hname := (h.texts name hname).symm
  set d hd := (h.set d hd).symm

/-- Both callers give a value for a setting or neither does, unless it is secret. -/
theorem known_of (h : AgreeButSecrets schema x y)
    (hknown : ∀ name, (x.given? name).isSome → name ∈ schema.names) (name : String)
    (hname : (y.given? name).isSome) : name ∈ schema.names := by
  by_cases hsecret : name ∈ schema.secrets.map Setting.name
  · obtain ⟨d, hd, rfl⟩ := List.mem_map.mp hsecret
    exact List.mem_map_of_mem (Schema.mem_secrets.mp hd).1
  · exact hknown name (by rwa [h.arguments name hsecret])

/-- What shows of a setting is the same for both callers. -/
theorem face_valueOf (h : AgreeButSecrets schema x y) (hdistinct : schema.origins.Nodup)
    {env env' : Environment}
    (henv : ∀ name, Entries.get? env name = (x.process? name).or (x.text? name))
    (henv' : ∀ name, Entries.get? env' name = (y.process? name).or (y.text? name))
    {d : Setting} (hd : d ∈ schema.settings) :
    (valueOf schema (given x.arguments) env d).map Held.face =
      (valueOf schema (given y.arguments) env' d).map Held.face := by
  by_cases hkind : d.kind = .secret
  · have hsecret : d ∈ schema.secrets := Schema.mem_secrets.mpr ⟨hd, hkind⟩
    have hsets (z : Supply) (e : Environment)
        (he : ∀ name, Entries.get? e name = (z.process? name).or (z.text? name)) :
        ((Entries.get? (given z.arguments) d.name).isSome ∨
          (Entries.get? e (schema.variableOf d.name)).isSome) ↔ z.Sets schema d := by
      rw [he, Option.isSome_or, Bool.or_eq_true]
      rfl
    have hset := (hsets x env henv).trans ((h.set d hsecret).trans (hsets y env' henv').symm)
    have htextual (hx : x.IsTextual d) (hy : y.IsTextual d) :
        (valueOf schema (given x.arguments) env d).map Held.face =
          (valueOf schema (given y.arguments) env' d).map Held.face := by
      rw [face_valueOf_secret hkind hx, face_valueOf_secret hkind hy]
      exact congrArg Except.ok (if_congr hset rfl rfl)
    rcases h.secrets d hsecret with hsame | ⟨hx, hy⟩
    · cases hgiven : x.given? d.name with
      | some v => rw [valueOf_given hgiven, valueOf_given (hsame ▸ hgiven)]
      | none =>
          exact htextual (fun v hv => nomatch hgiven.symm.trans hv)
            fun v hv => nomatch (hsame ▸ hgiven).symm.trans hv
    · exact htextual hx hy
  · have hvariable := Schema.not_mem_secretVariables hdistinct hd hkind
    refine congrArg _ (valueOf_congr
      (h.arguments _ (Schema.not_mem_secretNames hdistinct hd hkind)) ?_)
    rw [henv, henv', h.process _ hvariable, h.texts _ hvariable]

/-- Where a file of variables is refused to one caller and not to the other, it is for a secret. -/
theorem shown?_of_unset (h : AgreeButSecrets schema x y) {name text : String} {f : Fault}
    (htext : x.text? name = some text) (hnone : x.process? name = none)
    (hset : x.session.environment.set name text = .error f)
    (hmade : x.made schema = .error (.fault f)) :
    x.shown? schema = y.shown? schema ∨ Unsettable schema x := by
  by_cases hsecret : name ∈ schema.secretVariables
  · exact .inr ⟨name, hsecret, text, f, htext, hnone, hset, hmade⟩
  · refine .inl ?_
    rw [Supply.shown?_of_error hmade]
    cases Supply.makes schema y with
    | unread htexts hmade' => rw [Supply.shown?_of_error hmade']
    | unset _ _ _ _ hmade' => rw [Supply.shown?_of_error hmade']
    | resolved _ hsettable =>
        have hset' := Environment.set_error_congr hset y.session.environment
        exact absurd hset' (hsettable name text ((h.texts name hsecret).symm.trans htext)
          ((h.process name hsecret).symm.trans hnone) f)

end AgreeButSecrets

/-- What is shown of settings is the same for any two callers who supply the same but for the texts
of secrets, unless one of these texts keeps a file of variables from being read through. -/
def Conceals (schema : Schema) : Prop :=
  ∀ x y : Supply, AgreeButSecrets schema x y →
    x.shown? schema = y.shown? schema ∨ Unsettable schema x ∨ Unsettable schema y

theorem conceals_of_nodup {schema : Schema} (hdistinct : schema.origins.Nodup) :
    Conceals schema := by
  intro x y h
  -- a file that one caller cannot read cannot be read by the other
  have hunread {f : Fault} (htexts : x.texts = .error f ∨ y.texts = .error f) :
      x.texts.isOk = true → y.texts.isOk = true → False := by
    rcases htexts with htexts | htexts <;> simp [htexts, Except.isOk, Except.toBool]
  cases Supply.makes schema x with
  | unread htexts hmade =>
      rw [Supply.shown?_of_error hmade]
      cases Supply.makes schema y with
      | unread _ hmade' => exact .inl (Supply.shown?_of_error hmade').symm
      | unset _ _ _ _ hmade' => exact .inl (Supply.shown?_of_error hmade').symm
      | resolved hread => exact (hunread (.inl htexts) (h.read.trans hread) hread).elim
  | unset hread htext hnone hset hmade =>
      exact (h.shown?_of_unset htext hnone hset hmade).imp_right .inl
  | resolved hread _ henv hmade =>
      cases Supply.makes schema y with
      | unread htexts => exact (hunread (.inr htexts) hread (h.read.symm.trans hread)).elim
      | unset _ htext hnone hset hmade' =>
          exact (h.symm.shown?_of_unset htext hnone hset hmade').imp Eq.symm .inr
      | resolved _ _ henv' hmade' =>
          refine .inl ?_
          rw [Supply.shown?_of_resolved hmade, Supply.shown?_of_resolved hmade']
          refine shown_resolve ?_
            (faces_valuesOf fun d hd => h.face_valueOf hdistinct henv henv' hd)
          exact unknown_eq_nil.trans (.trans ⟨h.known_of, h.symm.known_of⟩ unknown_eq_nil.symm)

/-- **Secrets are not shown.**  Where each setting has its own variable, what is shown is the same
for any two callers who supply the same but for the texts of secrets, unless one of these texts
keeps a file of variables from being read through.  So it is for the connection, whose secrets are
the bearer token, the two halves of the key and the token of a session. -/
theorem secrets_concealed :
    (∀ schema : Schema, schema.origins.Nodup → Conceals schema) ∧
      Conceals .connection ∧
      Schema.connection.secrets.map Setting.name =
        ["bearer_token_bedrock", "access_key_id", "secret_access_key", "session_token"] :=
  ⟨fun _ => conceals_of_nodup, conceals_of_nodup (by decide), by decide⟩

/-- A caller who gives a bearer token, with one half of the key in the process and the other in a
file. -/
def bearer : Supply where
  arguments := [("bearer_token_bedrock", .str "one")]
  file := { bytes := some "AWS_SECRET_ACCESS_KEY=two\nAWS_REGION_NAME=eu-west-1".toUTF8.toList }
  session := { environment := [("AWS_ACCESS_KEY_ID", "three")] }

/-- A caller with other secrets, each in another place. -/
def keeper : Supply where
  arguments := [("access_key_id", .str "four")]
  file := {
    bytes := some "AWS_REGION_NAME=eu-west-1\nAWS_BEARER_TOKEN_BEDROCK=five".toUTF8.toList }
  session := { environment := [("AWS_SECRET_ACCESS_KEY", "six")] }

theorem texts_bearer : bearer.texts.toOption =
    some [("AWS_SECRET_ACCESS_KEY", some "two"), ("AWS_REGION_NAME", some "eu-west-1")] := by
  decide +kernel

theorem texts_keeper : keeper.texts.toOption =
    some [("AWS_REGION_NAME", some "eu-west-1"), ("AWS_BEARER_TOKEN_BEDROCK", some "five")] := by
  decide +kernel

theorem bearer_agrees : AgreeButSecrets .connection bearer keeper where
  arguments _ hname := Entries.get?_eq_of_subset (by decide) (by decide) hname
  secrets d _ := .inr ⟨bearer.isTextual (by simp [bearer]) d, keeper.isTextual (by simp [keeper]) d⟩
  process _ hname := Entries.get?_eq_of_subset (by decide) (by decide) hname
  read := by decide +kernel
  texts name hname := by
    have hkey : "AWS_SECRET_ACCESS_KEY" ≠ name := fun h => hname (h ▸ by decide)
    have htoken : "AWS_BEARER_TOKEN_BEDROCK" ≠ name := fun h => hname (h ▸ by decide)
    unfold Supply.text?
    rw [texts_bearer, texts_keeper]
    simp [Entries.get?_cons, hkey, htoken]
  set := by decide +kernel

/-- The two are shown the same connection. -/
theorem bearer_shown_as_keeper :
    Schema.connection.origins.Nodup ∧ AgreeButSecrets .connection bearer keeper ∧
      (bearer.shown? .connection).isSome ∧
      bearer.shown? .connection = keeper.shown? .connection := by
  have hdistinct : Schema.connection.origins.Nodup := by decide
  refine ⟨hdistinct, bearer_agrees, by decide +kernel, ?_⟩
  rcases secrets_concealed.1 .connection hdistinct bearer keeper bearer_agrees with h | h | h
  · exact h
  · exact absurd h (not_unsettable (by decide +kernel))
  · exact absurd h (not_unsettable (by decide +kernel))

/-- A secret beside a plain setting. -/
def locked : Schema where
  name := "Locked"
  settings := [{ name := "open", kind := .truth }, { name := "key", kind := .secret }]

/-- A caller whose file gives the secret, as this text. -/
def filing (bytes : List UInt8) : Supply where
  file := { bytes := some ("KEY=".toUTF8.toList ++ bytes) }

/-- A caller whose process has the secret, with a file that gives its text to the plain setting. -/
def copying (text : String) : Supply where
  file := { bytes := some "OPEN=$\x7bKEY\x7d".toUTF8.toList }
  session := { environment := [("KEY", text)] }

theorem filing_agrees : AgreeButSecrets locked (filing [97, 0, 98]) (filing [97, 98]) where
  arguments _ _ := rfl
  secrets d _ := .inr ⟨Supply.isTextual (by simp [filing]) d, Supply.isTextual (by simp [filing]) d⟩
  process _ _ := rfl
  read := by decide +kernel
  texts name hname := by
    have htexts : (filing [97, 0, 98]).texts.toOption = some [("KEY", some "a\x00b")] := by
      decide +kernel
    have htexts' : (filing [97, 98]).texts.toOption = some [("KEY", some "ab")] := by
      decide +kernel
    unfold Supply.text?
    rw [htexts, htexts']
    exact congrArg Option.join (Entries.get?_eq_of_subset (by decide) (by decide) hname)
  set := by decide +kernel

/-- A file may tell secrets apart: a text with a NUL in it keeps it from being read through.  And
where a plain setting refers to the variable of a secret, files that are the same, line by line,
do not make the callers agree on it. -/
theorem secrets_told_by_file :
    (¬ ∀ (schema : Schema) (x y : Supply), schema.origins.Nodup → AgreeButSecrets schema x y →
      x.shown? schema = y.shown? schema) ∧
    ¬ ∀ (schema : Schema) (x y : Supply), schema.origins.Nodup →
      x.arguments = y.arguments → x.file = y.file →
      (∀ name, name ∉ schema.secretVariables → x.process? name = y.process? name) →
      (∀ d ∈ schema.secrets, x.Sets schema d ↔ y.Sets schema d) →
      x.shown? schema = y.shown? schema := by
  constructor
  · intro h
    have hshown := h locked (filing [97, 0, 98]) (filing [97, 98]) (by decide) filing_agrees
    exact absurd hshown (by decide +kernel)
  · intro h
    have hshown := h locked (copying "yes") (copying "no") (by decide) rfl rfl
      (fun _ hname => Entries.get?_eq_of_subset (by decide) (by decide) hname) (by decide +kernel)
    exact absurd hshown (by decide +kernel)

end Settings

end Parley
