/-
What a run depends on.

Whatever is set up in a process sees the variables of the process, and may change them for whatever
is set up later.  A computation that depends on some variables only comes to the same in any two
sessions that have the same texts for these: to the same result, by the same steps and with the
same records.  Settings depend on the variables that the caller leaves them to be read from, and on
those that the file of variables brings in.
-/
import Parley.Proofs.Variables
import Parley.Proofs.Outcome
import Parley.Proofs.Run
import Parley.Service.Connection

namespace Parley

open Environment (SameOn Filled)

/-! ### Computations -/

namespace Session

/-- A session after variables were set, steps were taken and records were written. -/
def after (s : Session) (env : Environment) (steps : List Opening) (records : List Record) :
    Session :=
  { s with
    environment := env
    openings := s.openings ++ steps
    log := s.log ++ records }

variable (s : Session) (env env' : Environment) (steps steps' : List Opening)
  (records records' : List Record)

@[simp] theorem after_environment : (s.after env steps records).environment = env := rfl

@[simp] theorem after_openings : (s.after env steps records).openings = s.openings ++ steps := rfl

@[simp] theorem after_log : (s.after env steps records).log = s.log ++ records := rfl

@[simp] theorem after_obstacle : (s.after env steps records).obstacle = s.obstacle := rfl

theorem after_after :
    (s.after env steps records).after env' steps' records' =
      s.after env' (steps ++ steps') (records ++ records') := by
  simp [after]

theorem after_nil : s.after s.environment [] [] = s := by simp [after]

end Session

namespace Run

variable {α β : Type}

theorem say_after (level : Level) (source : Source) (text : String) (s : Session)
    (env : Environment) (steps : List Opening) (records : List Record) :
    say level source text (s.after env steps records) =
      (.ok (), s.after env steps (records ++ [⟨level, source, text⟩])) := by
  simp [Session.after]

/-- A step is taken in every session that nothing keeps from opening clients. -/
theorem openStep_apply {s : Session} (h : s.obstacle = none) (o : Opening) :
    openStep o s = (.ok (), s.after s.environment [o] []) := by
  unfold openStep
  rw [bind_apply_ok (modify_apply _ s), bind_apply_ok (get_apply _)]
  dsimp only
  rw [h]
  simp [Session.after, h]

theorem setVariable_apply (name text : String) (s : Session) :
    setVariable name text s = match s.environment.set name text with
      | .ok env => (.ok (), s.after env [] [])
      | .error f => (.error (.fault f), s) := by
  unfold setVariable
  rw [bind_apply_ok (get_apply s), bind_apply, ofExcept_apply]
  cases s.environment.set name text with
  | error f => rfl
  | ok env =>
      show (Except.ok (), { s with environment := env }) = (Except.ok (), s.after env [] [])
      simp [Session.after]

/-- A computation that depends on some variables only.  In two sessions that have the same texts
for these it comes to the same, by the same steps and with the same records, and leaves them with
the same texts.  It changes nothing in a session but variables, steps and records. -/
def DependsOn (names : List String) (x : Run α) : Prop :=
  ∀ s s' : Session, s.obstacle = none → s'.obstacle = none →
    SameOn names s.environment s'.environment →
    ∃ r env env' steps records, x s = (r, s.after env steps records) ∧
      x s' = (r, s'.after env' steps records) ∧ SameOn names env env'

namespace DependsOn

variable {names : List String}

theorem of_const {x : Run α} {r : Except Halt α} (h : ∀ s, x s = (r, s)) : DependsOn names x :=
  fun s s' _ _ hagree => ⟨r, s.environment, s'.environment, [], [],
    by rw [h, Session.after_nil], by rw [h, Session.after_nil], hagree⟩

theorem pure (a : α) : DependsOn names (Pure.pure a : Run α) := of_const fun _ => rfl

theorem fail (f : Fault) : DependsOn names (Run.fail f : Run α) := of_const fun _ => rfl

theorem ofExcept (e : Except Fault α) : DependsOn names (Run.ofExcept e) :=
  of_const (ofExcept_apply e)

theorem say (level : Level) (source : Source) (text : String) :
    DependsOn names (Run.say level source text) :=
  fun s s' _ _ hagree => ⟨.ok (), s.environment, s'.environment, [], [⟨level, source, text⟩],
    by simp [Session.after], by simp [Session.after], hagree⟩

theorem bind {x : Run α} {f : α → Run β} (hx : DependsOn names x)
    (hf : ∀ a, DependsOn names (f a)) : DependsOn names (x >>= f) := by
  intro s s' hs hs' hagree
  obtain ⟨r, env, env', steps, records, h, h', hagree⟩ := hx s s' hs hs' hagree
  rw [bind_apply, bind_apply, h, h']
  cases r with
  | error e => exact ⟨.error e, env, env', steps, records, rfl, rfl, hagree⟩
  | ok a =>
      obtain ⟨r, env, env', steps', records', h, h', hagree⟩ :=
        hf a (s.after env steps records) (s'.after env' steps records) hs hs' hagree
      rw [Session.after_after] at h h'
      exact ⟨r, env, env', steps ++ steps', records ++ records', h, h', hagree⟩

theorem onFault {x : Run α} {handler : Fault → Run α} (hx : DependsOn names x)
    (hh : ∀ f, DependsOn names (handler f)) : DependsOn names (Run.onFault x handler) := by
  intro s s' hs hs' hagree
  obtain ⟨r, env, env', steps, records, h, h', hagree⟩ := hx s s' hs hs' hagree
  rw [onFault_apply, onFault_apply, h, h']
  rcases r with (f | _) | a
  · obtain ⟨r, env, env', steps', records', h, h', hagree⟩ :=
      hh f (s.after env steps records) (s'.after env' steps records) hs hs' hagree
    rw [Session.after_after] at h h'
    exact ⟨r, env, env', steps ++ steps', records ++ records', h, h', hagree⟩
  · exact ⟨_, env, env', steps, records, rfl, rfl, hagree⟩
  · exact ⟨_, env, env', steps, records, rfl, rfl, hagree⟩

theorem openStep (o : Opening) : DependsOn names (Run.openStep o) :=
  fun s s' hs hs' hagree => ⟨.ok (), s.environment, s'.environment, [o], [],
    openStep_apply hs o, openStep_apply hs' o, hagree⟩

theorem setVariable (name text : String) : DependsOn names (Run.setVariable name text) := by
  intro s s' _ _ hagree
  rw [setVariable_apply, setVariable_apply]
  have hsame := Environment.set_congr s.environment s'.environment name text
  cases h : s.environment.set name text with
  | error f =>
      cases h' : s'.environment.set name text with
      | error f' =>
          obtain rfl : f = f' := by simpa [h, h', Except.map] using hsame
          exact of_const (fun _ => rfl) s s' ‹_› ‹_› hagree
      | ok env' => simp [h, h', Except.map] at hsame
  | ok env =>
      cases h' : s'.environment.set name text with
      | error f' => simp [h, h', Except.map] at hsame
      | ok env' =>
          refine ⟨.ok (), env, env', [], [], rfl, rfl, ?_⟩
          rw [Environment.set_ok h, Environment.set_ok h']
          exact hagree.put name text

theorem settingUp (text : String) {x : Run α} (hx : DependsOn names x) :
    DependsOn names (Run.settingUp text x) :=
  hx.onFault fun _ => fail _

end DependsOn

/-- A failure to set up, in the words for it. -/
def inWords (text : String) : Halt → Halt
  | .fault f => .fault (if f.isBadValue then .raised .initialization text (some f) else f)
  | .stopped => .stopped

theorem settingUp_apply (text : String) (x : Run α) (s : Session) :
    settingUp text x s = ((x s).1.mapError (inWords text), (x s).2) := by
  unfold settingUp
  rw [onFault_apply]
  rcases x s with ⟨(f | _) | a, t⟩ <;> rfl

/-- A computation that changes nothing in a session but that it sets some variables that were not
set. -/
def Fills (names : List String) (x : Run α) : Prop :=
  ∀ s, ∃ env, (x s).2 = s.after env [] [] ∧ Filled names s.environment env

namespace Fills

variable {names : List String}

theorem pure (a : α) : Fills names (Pure.pure a : Run α) :=
  fun s => ⟨s.environment, s.after_nil.symm, .refl _⟩

theorem mono {x : Run α} {more : List String} (h : Fills names x) (hsub : names ⊆ more) :
    Fills more x := by
  intro s
  obtain ⟨env, hx, hfilled⟩ := h s
  exact ⟨env, hx, hfilled.mono hsub⟩

theorem bind_ofExcept {x : Run α} (h : Fills names x) (f : α → Except Fault β) :
    Fills names (x >>= fun a => Run.ofExcept (f a)) := by
  intro s
  obtain ⟨env, hx, hfilled⟩ := h s
  refine ⟨env, ?_, hfilled⟩
  rw [bind_apply, ← hx]
  rcases x s with ⟨e | a, t⟩
  · rfl
  · dsimp only
    rw [ofExcept_apply]

theorem settingUp {x : Run α} (h : Fills names x) (text : String) :
    Fills names (Run.settingUp text x) := by
  intro s
  obtain ⟨env, hx, hfilled⟩ := h s
  exact ⟨env, by rw [settingUp_apply, hx], hfilled⟩

end Fills

/-- Where another fault is passed on, values come from the computation itself. -/
theorem onFault_fail_ok {x : Run α} {reworded : Fault → Fault} {s t : Session} {a : α}
    (h : onFault x (fun f => fail (reworded f)) s = (.ok a, t)) : x s = (.ok a, t) := by
  rw [onFault_apply] at h
  rcases hx : x s with ⟨(f | _) | b, u⟩ <;> rw [hx] at h
  · cases h
  · cases h
  · exact h

end Run

/-! ### Settings -/

namespace Settings

variable {names : List String}

/-- The variables that settings are read from: those of the settings that the caller leaves. -/
def sources (schema : Schema) (arguments : List (String × Given)) : List String :=
  (schema.settings.filter fun s =>
      (Entries.get? (arguments.filter fun e => !e.2.isNull) s.name).isNone).map
    fun s => schema.variableOf s.name

/-- The arguments that are about settings. -/
def ownArguments (arguments : List (String × Given)) : List (String × Given) :=
  arguments.filter fun e => !isAboutFile e.1

/-- The variables that what settings come to depends on. -/
def reads (schema : Schema) (arguments : List (String × Given)) (file : Environment.File) :
    List String :=
  sources schema (ownArguments arguments) ++
    match fileFor arguments file with
    | .ok f => Environment.consulted f
    | .error _ => []

/-- The variables that are named in the file that is meant. -/
def filed (arguments : List (String × Given)) (file : Environment.File) : List String :=
  match fileFor arguments file with
  | .ok f => Environment.named f
  | .error _ => []

theorem valuesOf_congr {schema : Schema} {given : List (String × Given)} {env env' : Environment}
    {settings : List Setting}
    (h : ∀ s ∈ settings, Entries.get? given s.name = none →
      Entries.get? env (schema.variableOf s.name) = Entries.get? env' (schema.variableOf s.name)) :
    valuesOf schema given env settings = valuesOf schema given env' settings := by
  induction settings with
  | nil => rfl
  | cons s rest ih =>
      have hvalue : valueOf schema given env s = valueOf schema given env' s := by
        unfold valueOf
        cases hgiven : Entries.get? given s.name with
        | some v => rfl
        | none => rw [h s (by simp) hgiven]
      unfold valuesOf
      rw [hvalue, ih fun t ht => h t (by simp [ht])]

/-- Settings come to the same where the variables that they are read from have the same texts. -/
theorem resolve_congr {schema : Schema} {arguments : List (String × Given)}
    {env env' : Environment} (h : SameOn (sources schema arguments) env env') :
    resolve schema arguments env = resolve schema arguments env' := by
  unfold resolve
  dsimp only
  rw [valuesOf_congr fun s hs hgiven => h _ (List.mem_map_of_mem (List.mem_filter.mpr
    ⟨hs, by rw [hgiven]; rfl⟩))]

/-- What loading a file leaves behind. -/
theorem loadFile_apply (file : Environment.File) (s : Session) :
    loadFile file s =
      ((Environment.load s.environment file).2.elim (.ok ()) fun f => .error (.fault f),
        s.after (Environment.load s.environment file).1 [] []) := by
  unfold loadFile
  rw [Run.bind_apply_ok (Run.get_apply s)]
  rcases Environment.load s.environment file with ⟨env, _ | f⟩ <;> simp [Session.after] <;> rfl

theorem dependsOn_loadFile {file : Environment.File}
    (h : Environment.consulted file ⊆ names) : (loadFile file).DependsOn names := by
  intro s s' _ _ hagree
  obtain ⟨hfault, hafter⟩ := Environment.load_congr hagree h
  rw [loadFile_apply, loadFile_apply, hfault]
  exact ⟨_, _, _, [], [], rfl, rfl, hafter⟩

/-- What loading settings leaves behind. -/
theorem load_apply (schema : Schema) (arguments : List (String × Given))
    (file : Environment.File) (s : Session) :
    load schema arguments file s = match fileFor arguments file with
      | .error f => (.error (.fault f), s)
      | .ok f =>
        match loadFile f s with
        | (.error e, t) => (.error e, t)
        | (.ok _, t) =>
          (((resolve schema (ownArguments arguments) t.environment).map fun settings =>
              { settings with
                hasFile := file.bytes.isSome ||
                  !((Entries.get? arguments pathArgument).getD .null).isNull
                encoding := encodingOf arguments file }).mapError Halt.fault, t) := by
  unfold load
  rw [Run.bind_apply, Run.ofExcept_apply]
  cases fileFor arguments file with
  | error f => rfl
  | ok f =>
      dsimp only [Except.mapError]
      rw [Run.bind_apply]
      rcases loadFile f s with ⟨e | _, t⟩
      · rfl
      · dsimp only
        rw [Run.bind_apply_ok (Run.get_apply t), Run.bind_apply, Run.ofExcept_apply]
        unfold ownArguments
        cases resolve schema _ t.environment <;> rfl

/-- **Settings depend on the variables that they are read from** and on those that the file of
variables brings in. -/
theorem dependsOn_load {schema : Schema} {arguments : List (String × Given)}
    {file : Environment.File} (h : reads schema arguments file ⊆ names) :
    (load schema arguments file).DependsOn names := by
  have hsources : sources schema (ownArguments arguments) ⊆ names :=
    fun name hname => h (List.mem_append_left _ hname)
  cases hfile : fileFor arguments file with
  | error f =>
      refine Run.DependsOn.of_const (r := .error (.fault f)) fun s => ?_
      rw [load_apply, hfile]
  | ok f =>
      have hconsulted : Environment.consulted f ⊆ names := fun name hname =>
        h (List.mem_append_right _ (by rw [hfile]; exact hname))
      intro s s' hs hs' hagree
      obtain ⟨r, env, env', steps, records, ht, ht', hagree⟩ :=
        dependsOn_loadFile hconsulted s s' hs hs' hagree
      rw [load_apply, load_apply, hfile]
      dsimp only
      rw [ht, ht']
      cases r with
      | error e => exact ⟨_, env, env', steps, records, rfl, rfl, hagree⟩
      | ok _ =>
          refine ⟨_, env, env', steps, records, rfl, ?_, hagree⟩
          dsimp only [Session.after_environment]
          rw [resolve_congr (hagree.mono hsources)]

/-- Every setting of a schema has its own value. -/
theorem valuesOf_get {schema : Schema} {given : List (String × Given)} {env : Environment}
    {settings : List Setting} {values : List (String × Held)}
    (h : valuesOf schema given env settings = .ok values) (hd : (settings.map Setting.name).Nodup)
    {s : Setting} (hs : s ∈ settings) :
    ∃ v, valueOf schema given env s = .ok v ∧ Entries.get? values s.name = some v := by
  induction settings generalizing values with
  | nil => simp at hs
  | cons d rest ih =>
      rw [List.map_cons, List.nodup_cons] at hd
      unfold valuesOf at h
      obtain ⟨v, hv, h⟩ := Outcome.bind_ok.mp h
      obtain ⟨more, hmore, h⟩ := Outcome.bind_ok.mp h
      obtain rfl := Except.ok.inj h
      rcases List.mem_cons.mp hs with rfl | hs
      · exact ⟨v, hv, by rw [Entries.get?_cons, if_pos rfl]⟩
      · obtain ⟨w, hw, hget⟩ := ih hmore hd.2 hs
        have hne : d.name ≠ s.name := fun heq => hd.1 (heq ▸ List.mem_map_of_mem hs)
        exact ⟨w, hw, by rw [Entries.get?_cons, if_neg hne, hget]⟩

/-- Settings that are resolved have the values of their schema. -/
theorem resolve_get {schema : Schema} {arguments : List (String × Given)} {env : Environment}
    {st : Settings} (h : resolve schema arguments env = .ok st)
    (hd : schema.names.Nodup) {s : Setting} (hs : s ∈ schema.settings) :
    valueOf schema (arguments.filter fun e => !e.2.isNull) env s = .ok (st.get s.name) := by
  unfold resolve at h
  dsimp only at h
  split at h
  · obtain ⟨values, hvalues, rfl⟩ := Outcome.map_ok.mp h
    obtain ⟨v, hv, hget⟩ := valuesOf_get hvalues hd hs
    rw [hv]
    unfold get
    dsimp only
    rw [hget]
    rfl
  · cases h

/-- What a caller gives of a schema, without the arguments that are about the file. -/
def given (arguments : List (String × Given)) : List (String × Given) :=
  (ownArguments arguments).filter fun e => !e.2.isNull

/-- Settings that are loaded have the values of their schema, with the variables as they are when
the file is read. -/
theorem load_get {schema : Schema} {arguments : List (String × Given)} {file : Environment.File}
    {s t : Session} {st : Settings} (h : load schema arguments file s = (.ok st, t))
    (hd : schema.names.Nodup) {d : Setting} (hmem : d ∈ schema.settings) :
    valueOf schema (given arguments) t.environment d = .ok (st.get d.name) := by
  rw [load_apply] at h
  split at h
  · cases h
  · split at h
    · cases h
    · rename_i u hfile
      obtain ⟨hvalue, rfl⟩ := Prod.mk.inj h
      cases hresolve : resolve schema (ownArguments arguments) u.environment with
      | error f =>
          rw [hresolve] at hvalue
          cases hvalue
      | ok found =>
          rw [hresolve] at hvalue
          cases hvalue
          exact resolve_get hresolve hd hmem

/-- Loading settings sets variables that are named in the file and were not set. -/
theorem fills_load (schema : Schema) (arguments : List (String × Given))
    (file : Environment.File) : (load schema arguments file).Fills (filed arguments file) := by
  intro s
  rw [load_apply]
  unfold filed
  cases fileFor arguments file with
  | error f => exact ⟨s.environment, s.after_nil.symm, .refl _⟩
  | ok f =>
      refine ⟨(Environment.load s.environment f).1, ?_, Environment.filled_load s.environment f⟩
      dsimp only
      rw [loadFile_apply]
      cases (Environment.load s.environment f).2 <;> rfl

end Settings

end Parley
