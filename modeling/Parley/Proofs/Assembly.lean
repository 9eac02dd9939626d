/-
What is assembled.

The settings of all providers are read before anything is built, and reading them changes nothing
but variables and the log.  What a provider's settings come to does not depend on where it stands in
the registry, since a file that was read once brings nothing in when it is read again.  So the
providers to build for can be told from the session at the start.  Each of them is set up once, in
the order of the registry and with the same connection, and its model is put behind those that
there are.
-/
import Parley.Proofs.Dependence
import Parley.Configuration.Assembly

namespace Parley

namespace Registry

/-! ### Registries -/

/-- The registry of providers that are registered one after another. -/
def registered (ps : List Provider) : Registry := ps.foldl register []

theorem names_register (r : Registry) (p : Provider) :
    (r.register p).map Provider.name =
      if p.name ∈ r.map Provider.name then r.map Provider.name
      else r.map Provider.name ++ [p.name] := by
  induction r with
  | nil => simp [register]
  | cons q rest ih =>
      unfold register
      by_cases h : q.name = p.name
      · simp [h]
      · rw [if_neg (by simpa using h), List.map_cons, ih]
        by_cases hmem : p.name ∈ rest.map Provider.name
        · simp [hmem]
        · simp [hmem, Ne.symm h]

/-- No two providers of a registry have the same name. -/
theorem nodup_registered (ps : List Provider) : ((registered ps).map Provider.name).Nodup := by
  have hfold (r : Registry) (h : (r.map Provider.name).Nodup) :
      ((ps.foldl register r).map Provider.name).Nodup := by
    induction ps generalizing r with
    | nil => exact h
    | cons p rest ih =>
        refine ih _ ?_
        rw [names_register]
        split
        · exact h
        · rename_i hnew
          simpa [List.nodup_append, h] using hnew
  exact hfold [] List.nodup_nil

end Registry

namespace Settings

/-! ### Reading settings again -/

/-- A session in which a file has been read that another one has still to read, or in which nothing
has happened to the variables. -/
def ReadSince (file : Environment.File) (s t : Session) : Prop :=
  t.environment = s.environment ∨
    Environment.load s.environment file = (t.environment, none)

theorem ReadSince.load {file : Environment.File} {s t : Session} (h : ReadSince file s t) :
    Environment.load t.environment file = Environment.load s.environment file := by
  rcases h with h | h
  · rw [h]
  · rw [h, Environment.load_idem h]

theorem read_bad {kind : SettingKind} {text : String} {f : Fault} (h : read kind text = .error f) :
    f.isBadValue = true := by
  unfold read at h
  split at h
  · cases h
  · cases h
  · cases h
  · split at h
    · cases h
    · rename_i flaw _
      obtain rfl := Except.error.inj h
      cases flaw <;> rfl
  · split at h
    · cases h
    · obtain rfl := Except.error.inj h
      rfl
  · cases h

theorem valuesOf_bad {schema : Schema} {given : List (String × Given)} {env : Environment}
    {settings : List Setting} {f : Fault} (h : valuesOf schema given env settings = .error f) :
    f.isBadValue = true := by
  induction settings with
  | nil => cases h
  | cons s rest ih =>
      unfold valuesOf at h
      rcases Outcome.bind_error.mp h with hvalue | ⟨_, -, h⟩
      · unfold valueOf at hvalue
        split at hvalue
        · cases hvalue
        · exact read_bad hvalue
        · cases hvalue
      · rcases Outcome.bind_error.mp h with hmore | ⟨_, -, h⟩
        · exact ih hmore
        · cases h

/-- Settings that cannot be resolved have a bad value among them. -/
theorem resolve_bad {schema : Schema} {arguments : List (String × Given)} {env : Environment}
    {f : Fault} (h : resolve schema arguments env = .error f) : f.isBadValue = true := by
  unfold resolve at h
  dsimp only at h
  split at h
  · exact valuesOf_bad (Outcome.map_error.mp h)
  · obtain rfl := Except.error.inj h
    rfl

/-- Without arguments there is nothing wrong with the file that is meant. -/
theorem fileFor_nil (file : Environment.File) : ∃ f, fileFor [] file = .ok f := by
  obtain ⟨_ | bytes, encoding⟩ := file
  · exact ⟨_, rfl⟩
  · cases encoding <;> exact ⟨_, rfl⟩

/-- **Settings come to the same** whether the file has been read before or not. -/
theorem load_since {schema : Schema} {file f : Environment.File} {s t : Session}
    (hfile : fileFor [] file = .ok f) (h : ReadSince f s t) :
    (load schema [] file t).1 = (load schema [] file s).1 := by
  rw [load_apply, load_apply, hfile]
  dsimp only
  rw [loadFile_apply, loadFile_apply, h.load]
  cases (Environment.load s.environment f).2 <;> rfl

theorem readSince_load {schema : Schema} {file f : Environment.File} {s t : Session} {st : Settings}
    (hfile : fileFor [] file = .ok f) (h : ReadSince f s t)
    (hload : (load schema [] file t).1 = .ok st) : ReadSince f s (load schema [] file t).2 := by
  rw [load_apply, hfile] at hload ⊢
  dsimp only at hload ⊢
  rw [loadFile_apply, h.load] at hload ⊢
  rcases hread : Environment.load s.environment f with ⟨env, _ | fault⟩ <;>
    rw [hread] at hload
  · exact .inr hread
  · cases hload

/-- Settings that cannot be loaded have a bad value among them, unless the file cannot be read;
and then no other settings can be loaded either, for the same reason. -/
theorem load_bad {schema schema' : Schema} {file f : Environment.File} {s : Session} {e e' : Halt}
    (hfile : fileFor [] file = .ok f) (h : (load schema [] file s).1 = .error e)
    (h' : (load schema' [] file s).1 = .error e') :
    e = e' ∨ ∃ fault, e = .fault fault ∧ fault.isBadValue = true := by
  rw [load_apply, hfile] at h h'
  dsimp only at h h'
  rw [loadFile_apply] at h h'
  rcases hread : Environment.load s.environment f with ⟨env, _ | fault⟩ <;>
    rw [hread] at h h'
  · right
    dsimp only [Option.elim_none] at h
    cases hresolve : resolve schema (ownArguments []) (s.after env [] []).environment with
    | error fault =>
        rw [hresolve] at h
        obtain rfl := Except.error.inj h
        exact ⟨fault, rfl, resolve_bad hresolve⟩
    | ok found =>
        rw [hresolve] at h
        cases h
  · left
    obtain rfl := Except.error.inj h
    exact Except.error.inj h'

end Settings

namespace Assembly

variable {plan : Plan} {s t : Session}

/-! ### What to build -/

/-- What is built for a provider, if the session is as it is at the start: its settings have to ask
for it, and the caller must not have a model of its name. -/
def chosen? (plan : Plan) (s : Session) (p : Provider) : Option (Provider × Settings) :=
  match (settingsOf plan p s).1 with
  | .ok st =>
    if (st.get "enabled").isSet && !Entries.has plan.existing p.name then some (p, st) else none
  | .error _ => none

/-- The providers of a registry to build for, with their settings. -/
def chosen (plan : Plan) (s : Session) (registry : Registry) : List (Provider × Settings) :=
  registry.filterMap (chosen? plan s)

/-- What the settings of a provider come to, and what they leave behind. -/
theorem settingsOf_since {f : Environment.File} (hfile : Settings.fileFor [] plan.file = .ok f)
    (h : Settings.ReadSince f s t) (p : Provider) :
    (settingsOf plan p t).1 = (settingsOf plan p s).1 ∧
      (∃ env, (settingsOf plan p t).2 = t.after env [] []) ∧
      ∀ st, (settingsOf plan p s).1 = .ok st → Settings.ReadSince f s (settingsOf plan p t).2 := by
  unfold settingsOf
  cases Entries.get? plan.settings p.name with
  | some st => exact ⟨rfl, ⟨t.environment, t.after_nil.symm⟩, fun _ _ => h⟩
  | none =>
      dsimp only
      obtain ⟨env, hstate, -⟩ := Settings.fills_load p.schema [] plan.file t
      rw [Run.settingUp_apply, Run.settingUp_apply, Settings.load_since hfile h]
      refine ⟨rfl, ⟨env, hstate⟩, fun st hst => ?_⟩
      cases hload : (Settings.load p.schema [] plan.file s).1 with
      | error e =>
          rw [hload] at hst
          cases hst
      | ok found =>
          exact Settings.readSince_load hfile h ((Settings.load_since hfile h).trans hload)

/-- What reading the settings of all providers comes to: either all can be read, and what is to be
built is known, or one of them cannot.  Nothing happens but that variables are set and records are
written. -/
inductive Wanted (plan : Plan) (s : Session) (registry : Registry) (t : Session) :
    Except Halt (List (Provider × Settings)) × Session → Prop
  | read {env : Environment} {records : List Record}
      (h : ∀ p ∈ registry, ∃ st, (settingsOf plan p s).1 = .ok st) :
      Wanted plan s registry t (.ok (chosen plan s registry), t.after env [] records)
  | failed {p : Provider} {e : Halt} {env : Environment} {records : List Record}
      (hp : p ∈ registry) (h : (settingsOf plan p s).1 = .error e) :
      Wanted plan s registry t (.error e, t.after env [] records)

theorem chosen_cons (plan : Plan) (s : Session) (p : Provider) (registry : Registry) :
    chosen plan s (p :: registry) = (chosen? plan s p).toList ++ chosen plan s registry := by
  unfold chosen
  rw [List.filterMap_cons]
  cases chosen? plan s p <;> rfl

namespace Wanted

variable {registry : Registry} {p : Provider} {st : Settings} {env : Environment}
  {records : List Record} {r : Except Halt (List (Provider × Settings)) × Session}

/-- A provider more whose settings can be read. -/
theorem cons (hp : (settingsOf plan p s).1 = .ok st)
    (h : Wanted plan s registry (t.after env [] records) r) :
    Wanted plan s (p :: registry) t (r.1.map ((chosen? plan s p).toList ++ ·), r.2) := by
  rcases h with hall | ⟨hq, hfault⟩
  · rw [Session.after_after]
    dsimp only [Except.map]
    rw [← chosen_cons]
    refine .read fun q hq => ?_
    rcases List.mem_cons.mp hq with rfl | hq
    · exact ⟨st, hp⟩
    · exact hall q hq
  · rw [Session.after_after]
    exact .failed (List.mem_cons_of_mem _ hq) hfault

/-- A provider more that nothing is built for. -/
theorem skip (hp : (settingsOf plan p s).1 = .ok st) (hnone : chosen? plan s p = none)
    (h : Wanted plan s registry (t.after env [] records) r) :
    Wanted plan s (p :: registry) t r := by
  have hcons := h.cons hp
  rw [hnone] at hcons
  obtain ⟨_ | _, _⟩ := r <;> exact hcons

/-- A provider more that a model is built for. -/
theorem take (hp : (settingsOf plan p s).1 = .ok st) (hsome : chosen? plan s p = some (p, st))
    (h : Wanted plan s registry (t.after env [] records) r) :
    Wanted plan s (p :: registry) t (r.1.map ((p, st) :: ·), r.2) := by
  have hcons := h.cons hp
  rw [hsome] at hcons
  exact hcons

end Wanted

/-- Settings are read in the same way in every session in which some may have been read. -/
theorem wanted_since {f : Environment.File} (hfile : Settings.fileFor [] plan.file = .ok f)
    (registry : Registry) (h : Settings.ReadSince f s t) :
    Wanted plan s registry t (wanted plan registry t) := by
  induction registry generalizing t with
  | nil =>
      have hnil : Wanted plan s [] t (.ok [], t.after t.environment [] []) := .read (by simp)
      rwa [Session.after_nil] at hnil
  | cons p rest ih =>
      obtain ⟨hvalue, ⟨env, hstate⟩, hread⟩ := settingsOf_since hfile h p
      unfold wanted
      rcases hp : settingsOf plan p t with ⟨e | st, u⟩ <;> rw [hp] at hvalue hstate hread <;>
        subst hstate
      · rw [Run.bind_apply_error hp]
        exact .failed (by simp) hvalue.symm
      · have hread := hread st hvalue.symm
        have hchosen : chosen? plan s p =
            if (st.get "enabled").isSet && !Entries.has plan.existing p.name then some (p, st)
            else none := by
          unfold chosen?
          rw [← hvalue]
        rw [Run.bind_apply_ok hp]
        cases henabled : (st.get "enabled").isSet with
        | false =>
            rw [henabled] at hchosen
            exact .skip hvalue.symm hchosen (ih hread)
        | true =>
            cases hexisting : Entries.has plan.existing p.name with
            | true =>
                rw [henabled, hexisting] at hchosen
                rw [if_neg (by simp), if_pos rfl, Run.bind_apply_ok (Run.say_after _ _ _ _ _ _ _)]
                exact .skip hvalue.symm hchosen (ih hread)
            | false =>
                rw [henabled, hexisting] at hchosen
                rw [if_neg (by simp), if_neg (by simp), Run.bind_pure_apply]
                exact .take hvalue.symm hchosen (ih hread)

/-- **What is to be built is known from the start**, or the settings of a provider cannot be
read. -/
theorem wanted_cases (plan : Plan) (registry : Registry) (s : Session) :
    Wanted plan s registry s (wanted plan registry s) := by
  obtain ⟨f, hfile⟩ := Settings.fileFor_nil plan.file
  exact wanted_since hfile registry (.inl rfl)

/-! ### Building -/

/-- What is said when a model is set up. -/
def configured (p : Provider) : Record :=
  ⟨.info, .configuration, s!"Configured Bedrock {p.purpose.word} model '{p.name}'."⟩

/-- Models are set up one after another: for each provider its own function is run once, with the
settings of the provider and a connection that is the same for all, and a record is written. -/
inductive Builds (c : Connection) :
    List (Provider × Settings) → Session → List (String × AnyModel) → Session → Prop
  | nil (s : Session) : Builds c [] s [] s
  | cons {p : Provider} {st : Settings} {rest : List (Provider × Settings)} {s t u : Session}
      {model : AnyModel} {models : List (String × AnyModel)}
      (setUp : p.setUp c st s = (.ok model, t))
      (more : Builds c rest (t.after t.environment [] [configured p]) models u) :
      Builds c ((p, st) :: rest) s ((p.name, model) :: models) u

theorem Builds.names {c : Connection} {ps : List (Provider × Settings)}
    {models : List (String × AnyModel)} (h : Builds c ps s models t) :
    models.map Prod.fst = ps.map fun e => e.1.name := by
  induction h with
  | nil => rfl
  | cons _ _ ih => rw [List.map_cons, List.map_cons, ih]

/-- Models of new names are put behind those that there are, in order. -/
theorem build_ok {c : Connection} {ps : List (Provider × Settings)}
    {models all : List (String × AnyModel)} (hnew : ∀ e ∈ ps, e.1.name ∉ models.map Prod.fst)
    (hd : (ps.map fun e => e.1.name).Nodup) (h : build c ps models s = (.ok all, t)) :
    ∃ built, Builds c ps s built t ∧ all = models ++ built := by
  induction ps generalizing models s with
  | nil =>
      obtain ⟨hall, rfl⟩ := Prod.mk.inj h
      obtain rfl := Except.ok.inj hall
      exact ⟨[], .nil _, by simp⟩
  | cons e rest ih =>
      obtain ⟨p, st⟩ := e
      rw [List.map_cons, List.nodup_cons] at hd
      unfold build at h
      rcases hp : p.setUp c st s with ⟨e | model, u⟩
      · rw [Run.bind_apply_error hp] at h
        cases h
      · rw [Run.bind_apply_ok hp, Run.bind_apply_ok (Run.say_apply _ _ _ _)] at h
        have hput := Entries.put_new model (hnew (p, st) (by simp))
        -- the name that is in use from now on is not one of those to come
        have hnew' : ∀ d ∈ rest, d.1.name ∉ (Entries.put models p.name model).map Prod.fst := by
          intro d hdmem
          rw [hput, List.map_append, List.mem_append, not_or]
          refine ⟨hnew d (by simp [hdmem]), fun hname => hd.1 ?_⟩
          have hname : d.1.name = p.name := List.mem_singleton.mp hname
          exact List.mem_map.mpr ⟨d, hdmem, hname⟩
        obtain ⟨built, hbuilds, rfl⟩ := ih hnew' hd.2 h
        refine ⟨(p.name, model) :: built, .cons hp ?_, by simp [hput]⟩
        simpa [Session.after, configured] using hbuilds

/-! ### Assembling -/

/-- What is assembled, and how. -/
structure Assembled (registry : Registry) (plan : Plan) (s : Session) (m : Models) (t : Session) :
    Prop where
  /-- The names are those that there are, and those of the providers that models are built for. -/
  names : m.names = plan.existing.map Prod.fst ++ (chosen plan s registry).map fun e => e.1.name
  /-- Once all settings are read, which takes no step towards a client, either there is nothing to
  build and nothing else happens, or there is a connection for all models, which is the one at hand
  or else is made once, and each model is built once. -/
  course : ∃ env records,
    (chosen plan s registry = [] ∧ m = ⟨plan.existing, plan.connection⟩ ∧
      t = s.after env [] records) ∨
    ∃ c u built, chosen plan s registry ≠ [] ∧ m = ⟨plan.existing ++ built, some c⟩ ∧
      (plan.connection = some c ∧ u = s.after env [] records ∨
        plan.connection = none ∧
          Connection.make { settings := plan.connectionSettings, policy := plan.policy,
                            file := plan.file } (s.after env [] records) = (.ok c, u)) ∧
      Builds c (chosen plan s registry) u built t

/-- How models are not assembled because the settings of a provider have a bad value: while
settings are read, before there is a connection or a model. -/
structure Refused (registry : Registry) (plan : Plan) (s : Session) (e : Halt) (t : Session) :
    Prop where
  reading : wanted plan registry s = (.error e, t)
  fault : ∃ p ∈ registry, ∃ f, f.isBadValue = true ∧ e = .fault (.raised .initialization
    s!"Failed to load settings for provider '{p.name}'." (some f))
  rest : ∃ env records, t = s.after env [] records

/-- How an assembly ends. -/
structure Ends (registry : Registry) (plan : Plan) (s : Session) : Prop where
  /-- If models are returned, they are assembled in this way. -/
  assembled : ∀ m t, assemble registry plan s = (.ok m, t) → Assembled registry plan s m t
  /-- If the settings of any provider have a bad value, nothing is built. -/
  refused : ∀ p ∈ registry, Entries.get? plan.settings p.name = none → ∀ f u,
    Settings.load p.schema [] plan.file s = (.error (.fault f), u) → f.isBadValue = true →
    ∃ e t, assemble registry plan s = (.error e, t) ∧ Refused registry plan s e t

theorem chosen?_some {p : Provider} {e : Provider × Settings} (h : chosen? plan s p = some e) :
    e.1 = p ∧ Entries.has plan.existing p.name = false := by
  unfold chosen? at h
  split at h
  · split at h
    · rename_i hboth
      obtain rfl := Option.some.inj h
      rw [Bool.and_eq_true, Bool.not_eq_true'] at hboth
      exact ⟨rfl, hboth.2⟩
    · cases h
  · cases h

/-- Models are built for providers in the order of the registry. -/
theorem chosen_providers (plan : Plan) (s : Session) (registry : Registry) :
    (chosen plan s registry).map Prod.fst =
      registry.filter fun p => (chosen? plan s p).isSome := by
  unfold chosen
  induction registry with
  | nil => rfl
  | cons p rest ih =>
      rw [List.filterMap_cons, List.filter_cons]
      cases hp : chosen? plan s p with
      | none => simpa using ih
      | some e =>
          obtain ⟨rfl, -⟩ := chosen?_some hp
          simpa using ih

/-- The names of the providers to build for are distinct, and none of them is in use. -/
theorem chosen_names {registry : Registry} (hd : (registry.map Provider.name).Nodup) :
    ((chosen plan s registry).map fun e => e.1.name).Nodup ∧
      ∀ e ∈ chosen plan s registry, e.1.name ∉ plan.existing.map Prod.fst := by
  constructor
  · have hnames : (chosen plan s registry).map (fun e => e.1.name) =
        ((chosen plan s registry).map Prod.fst).map Provider.name := by
      rw [List.map_map]
      rfl
    rw [hnames, chosen_providers]
    exact hd.sublist (List.filter_sublist.map _)
  · intro e he hname
    obtain ⟨p, -, hp⟩ := List.mem_filterMap.mp he
    obtain ⟨rfl, hnot⟩ := chosen?_some hp
    rw [Value.has_eq_isSome, Option.isSome_eq_false_iff, Option.isNone_iff_eq_none] at hnot
    exact Entries.get?_eq_none.mp hnot hname

theorem connectionFor_ok {c : Connection} (h : connectionFor plan s = (.ok c, t)) :
    (plan.connection = some c ∧ t = s) ∨
      plan.connection = none ∧
        Connection.make { settings := plan.connectionSettings, policy := plan.policy,
                          file := plan.file } s = (.ok c, t) := by
  unfold connectionFor at h
  cases hc : plan.connection with
  | some d =>
      rw [hc] at h
      obtain ⟨hd, rfl⟩ := Prod.mk.inj h
      exact .inl ⟨congrArg some (Except.ok.inj hd), rfl⟩
  | none =>
      rw [hc] at h
      exact .inr ⟨rfl, h⟩

theorem assembled_of_ok {registry : Registry} (hd : (registry.map Provider.name).Nodup)
    {m : Models} (h : assemble registry plan s = (.ok m, t)) : Assembled registry plan s m t := by
  obtain ⟨hnodup, hnew⟩ := @chosen_names plan s registry hd
  unfold assemble at h
  have hwanted := wanted_cases plan registry s
  rcases hw : wanted plan registry s with ⟨r, u⟩
  rw [hw] at hwanted
  cases hwanted with
  | failed hp he =>
      rw [Run.bind_apply_error hw] at h
      cases h
  | @read env records hall =>
      rw [Run.bind_apply_ok hw] at h
      cases hchosen : chosen plan s registry with
      | nil =>
          rw [hchosen] at h
          obtain ⟨hm, rfl⟩ := Prod.mk.inj h
          obtain rfl := Except.ok.inj hm
          exact ⟨by simp [Models.names, hchosen], env, records, .inl ⟨hchosen, rfl, rfl⟩⟩
      | cons e rest =>
          rw [hchosen] at h
          dsimp only at h
          rcases hc : connectionFor plan (s.after env [] records) with ⟨f | c, v⟩
          · rw [Run.bind_apply_error hc] at h
            cases h
          · rw [Run.bind_apply_ok hc, ← hchosen] at h
            rcases hb : build c (chosen plan s registry) plan.existing v with ⟨f | all, w⟩
            · rw [Run.bind_apply_error hb] at h
              cases h
            · rw [Run.bind_apply_ok hb] at h
              obtain ⟨hm, rfl⟩ := Prod.mk.inj h
              obtain rfl := Except.ok.inj hm
              obtain ⟨built, hbuilds, rfl⟩ := build_ok hnew hnodup hb
              refine ⟨by simp [Models.names, hbuilds.names], env, records,
                .inr ⟨c, v, built, by simp [hchosen], rfl, connectionFor_ok hc, hbuilds⟩⟩

/-- Settings that are not supplied fail as they do when they are loaded. -/
theorem settingsOf_error {p : Provider} {e : Halt} (h : (settingsOf plan p s).1 = .error e) :
    ∃ e', (Settings.load p.schema [] plan.file s).1 = .error e' ∧
      e = Run.inWords s!"Failed to load settings for provider '{p.name}'." e' := by
  unfold settingsOf at h
  cases hsupplied : Entries.get? plan.settings p.name with
  | some st =>
      rw [hsupplied] at h
      cases h
  | none =>
      rw [hsupplied] at h
      dsimp only at h
      rw [Run.settingUp_apply] at h
      cases hload : (Settings.load p.schema [] plan.file s).1 with
      | error e' =>
          rw [hload] at h
          exact ⟨e', rfl, (Except.error.inj h).symm⟩
      | ok st =>
          rw [hload] at h
          cases h

theorem refused_of_bad {registry : Registry} {p : Provider} (hp : p ∈ registry)
    (hnone : Entries.get? plan.settings p.name = none) {f : Fault} {u : Session}
    (hload : Settings.load p.schema [] plan.file s = (.error (.fault f), u))
    (hbad : f.isBadValue = true) :
    ∃ e t, assemble registry plan s = (.error e, t) ∧ Refused registry plan s e t := by
  have hpload : (Settings.load p.schema [] plan.file s).1 = .error (.fault f) := by rw [hload]
  have hwanted := wanted_cases plan registry s
  rcases hw : wanted plan registry s with ⟨r, t⟩
  rw [hw] at hwanted
  cases hwanted with
  | read hall =>
      obtain ⟨st, hst⟩ := hall p hp
      unfold settingsOf at hst
      rw [hnone] at hst
      dsimp only at hst
      rw [Run.settingUp_apply, hload] at hst
      cases hst
  | @failed q e env records hq he =>
      -- reading may stop at a provider before `p`, but then by a bad value as well: a file that
      -- cannot be read would be in the way of `p` too
      refine ⟨e, _, Run.bind_apply_error hw _, hw, ⟨q, hq, ?_⟩, env, records, rfl⟩
      obtain ⟨e', hqload, rfl⟩ := settingsOf_error he
      obtain ⟨file, hfile⟩ := Settings.fileFor_nil plan.file
      have hfault : ∃ g, e' = .fault g ∧ g.isBadValue = true := by
        rcases Settings.load_bad hfile hqload hpload with rfl | hg
        · exact ⟨f, rfl, hbad⟩
        · exact hg
      obtain ⟨g, rfl, hg⟩ := hfault
      refine ⟨g, hg, ?_⟩
      simp [Run.inWords, hg]

/-- **What is assembled**, for any providers that were registered. -/
theorem ends_assemble (ps : List Provider) (plan : Plan) (s : Session) :
    Ends (Registry.registered ps) plan s :=
  ⟨fun _ _ h => assembled_of_ok (Registry.nodup_registered ps) h,
    fun _ hp hnone _ _ hload hbad => refused_of_bad hp hnone hload hbad⟩

/-- A provider with a model that is always the same. -/
def custom (name stem : String) : Provider where
  name := name
  purpose := .chat
  schema := Schema.chat.extending "CustomSettings" stem
  build := fun _ _ => .ok (.other (.str name))

/-- Whether a run ends with a bad value. -/
def hasBadValue (r : Except Halt Settings) : Bool :=
  match r with
  | .error (.fault f) => f.isBadValue
  | _ => false

/-- Two providers are asked for, one of which the caller has a model for; a number that is none
keeps everything from being built. -/
theorem custom_models_assembled :
    let ps := [custom "a" "A_", custom "b" "B_", custom "c" "C_"]
    let plan : Plan := { connection := some default, existing := [("c", .other (.str "mine"))] }
    let s : Session := { environment := [("A_ENABLED", "yes"), ("C_ENABLED", "1")] }
    let s' : Session := { environment := [("A_ENABLED", "yes"), ("C_TOP_K", "many")] }
    (∃ m t, Assembled (Registry.registered ps) plan s m t ∧ m.names = ["c", "a"]) ∧
      ∃ e t, Refused (Registry.registered ps) plan s' e t := by
  intro ps plan s s'
  constructor
  · have hnames : (assemble (Registry.registered ps) plan s).1.toOption.map Models.names =
        some ["c", "a"] := by decide +kernel
    rcases h : assemble (Registry.registered ps) plan s with ⟨e | m, t⟩
    · rw [h] at hnames
      cases hnames
    · rw [h] at hnames
      exact ⟨m, t, (ends_assemble ps plan s).assembled m t h, Option.some.inj hnames⟩
  · have hbad : hasBadValue (Settings.load (custom "c" "C_").schema [] plan.file s').1 = true := by
      decide +kernel
    rcases h : Settings.load (custom "c" "C_").schema [] plan.file s' with ⟨(f | _) | st, t⟩ <;>
      rw [h] at hbad
    · obtain ⟨e, t, -, hrefused⟩ := (ends_assemble ps plan s').refused (custom "c" "C_")
        (by simp [Registry.registered, Registry.register, ps, custom]) rfl f t h hbad
      exact ⟨e, t, hrefused⟩
    · cases hbad
    · cases hbad

end Assembly

end Parley
