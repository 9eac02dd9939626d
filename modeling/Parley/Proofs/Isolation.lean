/-
What one connection leaves to the next.

Connections that are made one after another in a process share its variables.  Making one may set
variables that were not set, from a file, and may set the one that holds the bearer token; it
touches nothing else that another one looks at.  So a connection is made as it would be made first
wherever the variables that it reads are as they were at the start, and with other ones it is not:
a pair of keys is passed over for a bearer token that an earlier connection was given.
-/
import Mathlib.Data.List.Induction
import Parley.Proofs.Dependence

namespace Parley

open Environment (SameOn Extends Filled)

namespace Connection

/-! ### What a connection depends on -/

namespace Plan

/-- The variables that what comes of a plan depends on. -/
def reads (p : Plan) : List String :=
  (if p.settings.isNone then
      Settings.reads Schema.connection (settingArguments p.arguments) p.file
    else []) ++
  (if p.policy.isNone then Settings.reads Schema.retry (fileArguments p.arguments) p.file else [])

/-- The variables that are named in the file that a plan reads. -/
def filed (p : Plan) : List String :=
  (if p.settings.isNone then Settings.filed (settingArguments p.arguments) p.file else []) ++
  (if p.policy.isNone then Settings.filed (fileArguments p.arguments) p.file else [])

end Plan

variable {names : List String}

theorem dependsOn_announce (credentials : String) : (announce credentials).DependsOn names :=
  .say _ _ _

theorem dependsOn_steps (s : Settings) : (steps s).DependsOn names := by
  unfold steps
  dsimp only
  split
  · exact (dependsOn_announce _).bind fun _ => (Run.DependsOn.ofExcept _).bind fun _ =>
      (Run.DependsOn.setVariable _ _).bind fun _ => .openStep _
  · split
    · exact (dependsOn_announce _).bind fun _ => (Run.DependsOn.ofExcept _).bind fun _ =>
        .openStep _
    · split
      · exact (dependsOn_announce _).bind fun _ => (Run.DependsOn.openStep _).bind fun _ =>
          .openStep _
      · exact (dependsOn_announce _).bind fun _ => .openStep _

theorem dependsOn_openClient (s : Settings) : (openClient s).DependsOn names :=
  (dependsOn_steps s).onFault fun _ => .fail _

theorem dependsOn_settingsFor {p : Plan} (h : p.reads ⊆ names) : (settingsFor p).DependsOn names := by
  unfold settingsFor
  cases hsettings : p.settings with
  | some s => exact .pure s
  | none =>
      refine (Settings.dependsOn_load fun name hname => h ?_).settingUp _
      simp [Plan.reads, hsettings, hname]

theorem dependsOn_policyFor {p : Plan} (h : p.reads ⊆ names) : (policyFor p).DependsOn names := by
  unfold policyFor
  cases hpolicy : p.policy with
  | some policy => exact .pure policy
  | none =>
      refine ((Settings.dependsOn_load fun name hname => h ?_).bind fun _ => .ofExcept _).settingUp _
      simp [Plan.reads, hpolicy, hname]

/-- The client of a connection, unless there is one at hand. -/
def openFor (p : Plan) (s : Settings) : Run Unit :=
  if p.hasClient then pure () else openClient s

/-- A connection is made in three steps: settings, policy, client. -/
theorem make_eq (p : Plan) :
    make p = match p.arguments.find? fun e => !argumentNames.contains e.1 with
      | some e => Run.fail (unknownArgument e.1)
      | none => settingsFor p >>= fun s => policyFor p >>= fun policy =>
          openFor p s >>= fun _ => pure ⟨s, policy⟩ := by
  unfold make openFor
  cases p.arguments.find? fun e => !argumentNames.contains e.1 with
  | some e => rfl
  | none =>
      dsimp only
      cases p.hasClient <;> rfl

/-- **A connection depends on the variables that its plan reads.** -/
theorem dependsOn_make (p : Plan) : (make p).DependsOn p.reads := by
  rw [make_eq]
  split
  · exact .fail _
  · refine (dependsOn_settingsFor (List.Subset.refl _)).bind fun s =>
      (dependsOn_policyFor (List.Subset.refl _)).bind fun policy => ?_
    refine Run.DependsOn.bind ?_ fun _ => .pure _
    unfold openFor
    split
    · exact .pure _
    · exact dependsOn_openClient s

/-! ### What a connection leaves behind -/

theorem fills_settingsFor (p : Plan) : (settingsFor p).Fills p.filed := by
  unfold settingsFor
  cases hsettings : p.settings with
  | some _ => exact .pure _
  | none =>
      refine ((Settings.fills_load _ _ _).settingUp _).mono fun name hname => ?_
      simp [Plan.filed, hsettings, hname]

theorem fills_policyFor (p : Plan) : (policyFor p).Fills p.filed := by
  unfold policyFor
  cases hpolicy : p.policy with
  | some _ => exact .pure _
  | none =>
      refine (((Settings.fills_load _ _ _).bind_ofExcept _).settingUp _).mono fun name hname => ?_
      simp [Plan.filed, hpolicy, hname]

/-- Opening a client sets no variable but the one of the bearer token, and that one to the token
that the client is opened with. -/
theorem steps_environment (st : Settings) {s : Session} (h : s.obstacle = none) :
    (steps st s).2.environment = s.environment ∨
      ∃ token, st.get "bearer_token_bedrock" = .secret token ∧ (steps st s).1 = .ok () ∧
        (steps st s).2.environment = Entries.put s.environment bearerVariable token := by
  unfold steps announce
  dsimp only
  split
  · rw [Run.bind_apply_ok (Run.say_apply _ _ _ s), Run.bind_apply, Run.ofExcept_apply]
    cases htoken : st.get "bearer_token_bedrock" with
    | plain v => exact .inl rfl
    | secret token =>
        dsimp only [secretText, Except.mapError]
        rw [Run.bind_apply, Run.setVariable_apply]
        dsimp only
        cases hset : s.environment.set bearerVariable token with
        | error f => exact .inl rfl
        | ok env =>
            dsimp only
            rw [Run.openStep_apply (by exact h), Environment.set_ok hset]
            exact .inr ⟨token, rfl, rfl, rfl⟩
  · left
    split
    · rw [Run.bind_apply_ok (Run.say_apply _ _ _ s), Run.bind_apply, Run.ofExcept_apply]
      cases keysOf st with
      | error f => rfl
      | ok keys =>
          dsimp only [Except.mapError]
          rw [Run.openStep_apply (by exact h)]
          rfl
    · split
      · rw [Run.bind_apply_ok (Run.say_apply _ _ _ s), Run.bind_apply,
          Run.openStep_apply (by exact h)]
        dsimp only
        rw [Run.openStep_apply (by exact h)]
        rfl
      · rw [Run.bind_apply_ok (Run.say_apply _ _ _ s), Run.openStep_apply (by exact h)]
        rfl

theorem openClient_environment (st : Settings) {s : Session} (h : s.obstacle = none) :
    (openClient st s).2.environment = s.environment ∨
      ∃ token, st.get "bearer_token_bedrock" = .secret token ∧ (openClient st s).1 = .ok () ∧
        (openClient st s).2.environment = Entries.put s.environment bearerVariable token := by
  have hsteps := steps_environment st h
  unfold openClient
  rw [Run.onFault_apply]
  rcases hx : steps st s with ⟨(f | _) | a, t⟩ <;> rw [hx] at hsteps
  · exact .inl (hsteps.resolve_right fun ⟨_, _, hok, _⟩ => by cases hok)
  · exact .inl (hsteps.resolve_right fun ⟨_, _, hok, _⟩ => by cases hok)
  · exact hsteps

/-- What making a connection does to the variables: some that the file names are set, and then
perhaps the one of the bearer token, to the token that the connection has. -/
inductive Leaves (p : Plan) (s : Session) : Prop where
  | filled (h : Filled p.filed s.environment (make p s).2.environment)
  | exported {env : Environment} {c : Connection} {token : String}
      (filled : Filled p.filed s.environment env) (made : (make p s).1 = .ok c)
      (held : c.settings.get "bearer_token_bedrock" = .secret token)
      (set : (make p s).2.environment = Entries.put env bearerVariable token)

/-- A computation that depends on some variables leaves clients free to be opened. -/
theorem obstacle_of_dependsOn {α : Type} {x : Run α} (hx : x.DependsOn names) {s : Session}
    (h : s.obstacle = none) : (x s).2.obstacle = none := by
  obtain ⟨r, env, -, steps, records, hx, -, -⟩ := hx s s h h fun _ _ => rfl
  rw [hx]
  exact h

/-- How a connection that is not refused is made: up to the client, variables are set that the file
names, and nothing else happens. -/
theorem make_cases (p : Plan) (s : Session) :
    (∃ e env, make p s = (.error e, s.after env [] []) ∧ Filled p.filed s.environment env) ∨
    ∃ st policy env, Filled p.filed s.environment env ∧
      ((p.arguments.find? fun e => !argumentNames.contains e.1) = none ∧
        ∃ env', Filled p.filed s.environment env' ∧
          settingsFor p s = (.ok st, s.after env' [] [])) ∧
      make p s = (openFor p st >>= fun _ => pure ⟨st, policy⟩) (s.after env [] []) := by
  rw [make_eq]
  cases hknown : p.arguments.find? fun e => !argumentNames.contains e.1 with
  | some e => exact .inl ⟨_, s.environment, by rw [Session.after_nil]; rfl, .refl _⟩
  | none =>
      obtain ⟨env, hst, hfilled⟩ := fills_settingsFor p s
      rcases hsettings : settingsFor p s with ⟨e | st, t⟩ <;> rw [hsettings] at hst <;> subst hst
      · exact .inl ⟨e, env, Run.bind_apply_error hsettings _, hfilled⟩
      · obtain ⟨env', hpol, hfilled'⟩ := fills_policyFor p (s.after env [] [])
        rw [Session.after_after] at hpol
        rcases hpolicy : policyFor p (s.after env [] []) with ⟨e | policy, u⟩ <;>
          rw [hpolicy] at hpol <;> subst hpol
        · refine .inl ⟨e, env', ?_, hfilled.trans hfilled'⟩
          dsimp only
          rw [Run.bind_apply_ok hsettings, Run.bind_apply_error hpolicy]
          rfl
        · refine .inr ⟨st, policy, env', hfilled.trans hfilled', ⟨rfl, env, hfilled, rfl⟩, ?_⟩
          dsimp only
          rw [Run.bind_apply_ok hsettings, Run.bind_apply_ok hpolicy]
          rfl

theorem leaves_make (p : Plan) {s : Session} (h : s.obstacle = none) : Leaves p s := by
  rcases make_cases p s with ⟨e, env, hmake, hfilled⟩ | ⟨st, policy, env, hfilled, -, hmake⟩
  · refine .filled ?_
    rw [hmake]
    exact hfilled
  · rw [Run.bind_pure_apply] at hmake
    have hopen : (openFor p st (s.after env [] [])).2.environment = env ∨
        ∃ token, st.get "bearer_token_bedrock" = .secret token ∧
          (openFor p st (s.after env [] [])).1 = .ok () ∧
          (openFor p st (s.after env [] [])).2.environment =
            Entries.put env bearerVariable token := by
      unfold openFor
      cases p.hasClient with
      | true => exact .inl rfl
      | false => exact openClient_environment st (s := s.after env [] []) h
    rcases hopen with hsame | ⟨token, htoken, hok, hset⟩
    · refine .filled ?_
      rw [hmake, hsame]
      exact hfilled
    · refine .exported (c := ⟨st, policy⟩) hfilled ?_ htoken ?_
      · rw [hmake, hok]
        rfl
      · rw [hmake, hset]

/-! ### Keys -/

/-- A plan that gives a pair of keys, and no bearer token. -/
structure Plan.GivesKeys (p : Plan) (id secret : String) : Prop where
  client : p.hasClient = false
  settings : p.settings = none
  id_given : Entries.get? p.arguments "access_key_id" = some (.str id)
  secret_given : Entries.get? p.arguments "secret_access_key" = some (.str secret)
  id_set : id ≠ ""
  secret_set : secret ≠ ""
  no_token : ∀ v, ("bearer_token", v) ∈ p.arguments → v.isNull = true

theorem get?_settingArguments {name : String} (hname : name ≠ "bearer_token")
    (hname' : name ≠ "bearer_token_bedrock") (arguments : List (String × Given)) :
    Entries.get? (settingArguments arguments) name = Entries.get? arguments name := by
  induction arguments with
  | nil => rfl
  | cons e rest ih =>
      unfold settingArguments at ih ⊢
      rw [List.map_cons, Entries.get?_cons, Entries.get?_cons, ih]
      by_cases h : e.1 = "bearer_token"
      · simp [h, hname.symm, hname'.symm]
      · simp [h]

theorem keysOf_ok {st : Settings} {keys : Keys} {id secret : String}
    (hid : st.get "access_key_id" = .secret id) (hsecret : st.get "secret_access_key" = .secret secret)
    (h : keysOf st = .ok keys) : ∃ token, keys = ⟨id, secret, token⟩ := by
  unfold keysOf at h
  rw [hid, hsecret] at h
  simp only [secretText, Outcome.ok_bind] at h
  split at h
  · obtain ⟨token, -, h⟩ := Outcome.bind_ok.mp h
    exact ⟨token, (Except.ok.inj h).symm⟩
  · exact ⟨none, (Except.ok.inj h).symm⟩

/-- With keys and no token a client is opened with the keys. -/
theorem steps_keys {st : Settings} {s t : Session} {id secret : String} (h : s.obstacle = none)
    (hbearer : (st.get "bearer_token_bedrock").isSet = false)
    (hid : st.get "access_key_id" = .secret id) (hsecret : st.get "secret_access_key" = .secret secret)
    (hidSet : id ≠ "") (hsecretSet : secret ≠ "") (hsteps : steps st s = (.ok (), t)) :
    ∃ region token timeout,
      t.openings = s.openings ++ [.client region (some ⟨id, secret, token⟩) timeout] := by
  have hkeys : ((st.get "access_key_id").isSet && (st.get "secret_access_key").isSet) = true := by
    simp [hid, hsecret, Held.isSet, Held.reveal, Value.isSet, hidSet, hsecretSet]
  unfold steps announce at hsteps
  dsimp only at hsteps
  rw [hbearer, if_neg (by simp), if_pos hkeys, Run.bind_apply_ok (Run.say_apply _ _ _ s),
    Run.bind_apply, Run.ofExcept_apply] at hsteps
  cases hkeysOf : keysOf st with
  | error f =>
      rw [hkeysOf] at hsteps
      cases hsteps
  | ok keys =>
      rw [hkeysOf] at hsteps
      dsimp only [Except.mapError] at hsteps
      rw [Run.openStep_apply (by exact h)] at hsteps
      obtain ⟨-, rfl⟩ := Prod.mk.inj hsteps
      obtain ⟨token, rfl⟩ := keysOf_ok hid hsecret hkeysOf
      exact ⟨_, token, _, rfl⟩

/-- A text that the caller gives for a setting is what is given. -/
theorem given_text {arguments : List (String × Given)} {name text : String}
    (hname : name ≠ "bearer_token") (hname' : name ≠ "bearer_token_bedrock")
    (hown : Settings.isAboutFile name = false)
    (h : Entries.get? arguments name = some (.str text)) :
    Entries.get? (Settings.given (settingArguments arguments)) name = some (.str text) := by
  refine Entries.get?_filter_of_kept (Entries.get?_filter_of_kept ?_ ?_) rfl
  · rw [get?_settingArguments hname hname']
    exact h
  · simp [hown]

/-- No bearer token is given by a caller who gives none or the absent one. -/
theorem given_no_token {arguments : List (String × Given)}
    (hknown : (arguments.find? fun e => !argumentNames.contains e.1) = none)
    (h : ∀ v, ("bearer_token", v) ∈ arguments → v.isNull = true) :
    Entries.get? (Settings.given (settingArguments arguments)) "bearer_token_bedrock" = none := by
  refine Entries.get?_eq_none.mpr fun hmem => ?_
  obtain ⟨e, he, hname⟩ := List.mem_map.mp hmem
  obtain ⟨hmem, hnull⟩ := List.mem_filter.mp he
  obtain ⟨⟨name, v⟩, harg, rfl⟩ := List.mem_map.mp (List.mem_filter.mp hmem).1
  by_cases htoken : name = "bearer_token"
  · subst htoken
    simp [h v harg] at hnull
  · have hname : name = "bearer_token_bedrock" := by simpa [htoken] using hname
    subst hname
    have hargument : argumentNames.contains "bearer_token_bedrock" = true := by
      simpa using List.find?_eq_none.mp hknown _ harg
    exact absurd hargument (by decide)

/-- What the settings of a plan that gives keys come to. -/
theorem settingsFor_keys {p : Plan} {id secret : String} (hp : p.GivesKeys id secret)
    (hknown : (p.arguments.find? fun e => !argumentNames.contains e.1) = none) {s t : Session}
    (hunset : Entries.get? t.environment bearerVariable = none)
    {st : Settings} (h : settingsFor p s = (.ok st, t)) :
    st.get "access_key_id" = .secret id ∧ st.get "secret_access_key" = .secret secret ∧
      (st.get "bearer_token_bedrock").isSet = false := by
  unfold settingsFor at h
  rw [hp.settings] at h
  have hload := Run.onFault_fail_ok h
  have hvalue {d : Setting} (hd : d ∈ Schema.connection.settings) :=
    Settings.load_get hload (by decide) hd
  have hid := hvalue (d := ⟨"access_key_id", .secret, .null⟩) (by simp [Schema.connection])
  have hsecret := hvalue (d := ⟨"secret_access_key", .secret, .null⟩) (by simp [Schema.connection])
  have htoken := hvalue (d := ⟨"bearer_token_bedrock", .secret, .null⟩) (by simp [Schema.connection])
  have hvariable : Schema.connection.variableOf "bearer_token_bedrock" = bearerVariable := by
    decide +kernel
  unfold Settings.valueOf at hid hsecret htoken
  dsimp only at hid hsecret htoken
  rw [given_text (by decide) (by decide) (by decide) hp.id_given] at hid
  rw [given_text (by decide) (by decide) (by decide) hp.secret_given] at hsecret
  rw [given_no_token hknown hp.no_token, hvariable, hunset] at htoken
  exact ⟨(Except.ok.inj hid).symm, (Except.ok.inj hsecret).symm, by rw [← Except.ok.inj htoken]; rfl⟩

/-- **A pair of keys is used** where no variable holds a bearer token. -/
theorem make_keys {p : Plan} {id secret : String} (hp : p.GivesKeys id secret) {s : Session}
    (h : s.obstacle = none) (hunset : Entries.get? s.environment bearerVariable = none)
    (hfile : bearerVariable ∉ p.filed) {c : Connection} (hmade : (make p s).1 = .ok c) :
    ∃ region token timeout, (make p s).2.openings =
      s.openings ++ [.client region (some ⟨id, secret, token⟩) timeout] := by
  rcases make_cases p s with ⟨e, env, hmake, -⟩ |
    ⟨st, policy, env, -, ⟨hknown, env', hfilled, hsettings⟩, hmake⟩
  · rw [hmake] at hmade
    cases hmade
  · obtain ⟨hid, hsecret, htoken⟩ :=
      settingsFor_keys hp hknown ((hfilled.get? hfile).trans hunset) hsettings
    rw [Run.bind_pure_apply] at hmake
    rw [hmake] at hmade ⊢
    have hopen : openFor p st = openClient st := by
      unfold openFor
      rw [hp.client]
      rfl
    rw [hopen] at hmade ⊢
    rcases hclient : openClient st (s.after env [] []) with ⟨e | _, t⟩ <;> rw [hclient] at hmade
    · cases hmade
    · obtain ⟨region, token, timeout, hopenings⟩ :=
        steps_keys (by exact h) htoken hid hsecret hp.id_set hp.secret_set
          (Run.onFault_fail_ok hclient)
      exact ⟨region, token, timeout, by simpa using hopenings⟩

/-! ### One connection after another -/

/-- The session after connections were made one after another, whatever came of each. -/
def inTurn (ps : List Plan) (s : Session) : Session :=
  ps.foldl (fun s p => (make p s).2) s

/-- A token that one of several connections made one after another has. -/
def HasToken (ps : List Plan) (s : Session) (token : String) : Prop :=
  ∃ before p later c, ps = before ++ p :: later ∧ (make p (inTurn before s)).1 = .ok c ∧
    c.settings.get "bearer_token_bedrock" = .secret token

/-- What connections that were made before leave of the variables. -/
structure Left (ps : List Plan) (s t : Session) : Prop where
  obstacle : t.obstacle = none
  set : ∀ name, Entries.has s.environment name = true → Entries.has t.environment name = true
  /-- What was set stays as it was, but for the variable of the bearer token. -/
  kept : ∀ name text, name ≠ bearerVariable → Entries.get? s.environment name = some text →
    Entries.get? t.environment name = some text
  /-- What is new comes from a file. -/
  new : ∀ name, name ≠ bearerVariable → Entries.has s.environment name = false →
    Entries.has t.environment name = true → ∃ p ∈ ps, name ∈ p.filed
  /-- A bearer token was there at the start, comes from a file, or is that of a connection. -/
  bearer : ∀ token, Entries.get? t.environment bearerVariable = some token →
    Entries.get? s.environment bearerVariable = some token ∨
      (Entries.has s.environment bearerVariable = false ∧ ∃ p ∈ ps, bearerVariable ∈ p.filed) ∨
      HasToken ps s token

theorem inTurn_concat (ps : List Plan) (p : Plan) (s : Session) :
    inTurn (ps ++ [p]) s = (make p (inTurn ps s)).2 := by
  unfold inTurn
  rw [List.foldl_append]
  rfl

theorem HasToken.concat {ps : List Plan} {s : Session} {token : String} (h : HasToken ps s token)
    (p : Plan) : HasToken (ps ++ [p]) s token := by
  obtain ⟨before, q, later, c, rfl, hmade, htoken⟩ := h
  exact ⟨before, q, later ++ [p], c, by simp, hmade, htoken⟩

/-- One connection more. -/
theorem Left.concat {ps : List Plan} {s : Session} (h : Left ps s (inTurn ps s)) (p : Plan) :
    Left (ps ++ [p]) s (inTurn (ps ++ [p]) s) := by
  rw [inTurn_concat]
  have hobstacle := obstacle_of_dependsOn (dependsOn_make p) h.obstacle
  -- what the file of the last plan brings in, apart from what happens to the bearer token
  have hfilled {env : Environment} (hf : Filled p.filed (inTurn ps s).environment env) :
      (∀ name text, name ≠ bearerVariable → Entries.get? s.environment name = some text →
        Entries.get? env name = some text) ∧
      (∀ name, name ≠ bearerVariable → Entries.has s.environment name = false →
        Entries.has env name = true → ∃ q ∈ ps ++ [p], name ∈ q.filed) := by
    refine ⟨fun name text hname hget => hf.kept name text (h.kept name text hname hget), ?_⟩
    intro name hname hbefore hafter
    cases hmid : Entries.has (inTurn ps s).environment name with
    | true =>
        obtain ⟨q, hq, hfiled⟩ := h.new name hname hbefore hmid
        exact ⟨q, List.mem_append_left _ hq, hfiled⟩
    | false => exact ⟨p, by simp, hf.new name hmid hafter⟩
  rcases leaves_make p h.obstacle with hf | ⟨hf, hmade, htoken, hset⟩
  · refine ⟨hobstacle, fun name hhas => hf.kept.has (h.set name hhas), (hfilled hf).1,
      (hfilled hf).2, fun token hget => ?_⟩
    cases hmid : Entries.get? (inTurn ps s).environment bearerVariable with
    | some text =>
        obtain rfl : text = token := by
          rw [hf.kept _ _ hmid] at hget
          exact Option.some.inj hget
        rcases h.bearer text hmid with hstart | ⟨hunset, q, hq, hfiled⟩ | hhas
        · exact .inl hstart
        · exact .inr (.inl ⟨hunset, q, List.mem_append_left _ hq, hfiled⟩)
        · exact .inr (.inr (hhas.concat p))
    | none =>
        -- the last plan exports no token, so its file has brought this one in
        have hunset : Entries.has (inTurn ps s).environment bearerVariable = false := by
          rw [Value.has_eq_isSome, hmid]
          rfl
        refine .inr (.inl ⟨Bool.eq_false_iff.mpr fun hhas => ?_, p, by simp, ?_⟩)
        · rw [h.set _ hhas] at hunset
          cases hunset
        · exact hf.new _ hunset (Environment.has_iff.mpr ⟨token, hget⟩)
  · refine ⟨hobstacle, fun name hhas => ?_, fun name text hname hget => ?_,
      fun name hname hbefore hafter => ?_, fun token hget => .inr (.inr ?_)⟩
    · rw [hset, Value.has_eq_isSome, Entries.get?_put]
      split
      · rfl
      · rw [← Value.has_eq_isSome]
        exact hf.kept.has (h.set name hhas)
    · rw [hset, Entries.get?_put, if_neg (Ne.symm hname)]
      exact (hfilled hf).1 name text hname hget
    · rw [hset, Value.has_eq_isSome, Entries.get?_put, if_neg (Ne.symm hname),
        ← Value.has_eq_isSome] at hafter
      exact (hfilled hf).2 name hname hbefore hafter
    · rw [hset, Entries.get?_put, if_pos rfl] at hget
      obtain rfl := Option.some.inj hget
      exact ⟨ps, p, [], _, rfl, hmade, htoken⟩

/-- What any number of connections leave of the variables. -/
theorem left_inTurn (ps : List Plan) {s : Session} (h : s.obstacle = none) :
    Left ps s (inTurn ps s) := by
  induction ps using List.reverseRecOn with
  | nil =>
      exact ⟨h, fun _ hhas => hhas, fun _ _ _ hget => hget,
        fun _ _ hbefore hafter => absurd hafter (by simp [inTurn, hbefore]),
        fun _ hget => .inl hget⟩
  | append_singleton ps p ih => exact ih.concat p

/-- How a connection is made after others, in comparison to being made first. -/
structure Isolated (ps : List Plan) (p : Plan) (s : Session) : Prop where
  /-- The others change the variables in few ways. -/
  left : Left ps s (inTurn ps s)
  /-- Where they changed none that is read, the connection is made as it would be made first. -/
  same : SameOn p.reads s.environment (inTurn ps s).environment →
    ∃ steps, (make p (inTurn ps s)).1 = (make p s).1 ∧
      (make p s).2.openings = s.openings ++ steps ∧
      (make p (inTurn ps s)).2.openings = (inTurn ps s).openings ++ steps
  /-- A pair of keys is used where no bearer token is set by then. -/
  keys : ∀ id secret c, p.GivesKeys id secret →
    Entries.get? (inTurn ps s).environment bearerVariable = none → bearerVariable ∉ p.filed →
    (make p (inTurn ps s)).1 = .ok c →
    ∃ region token timeout, (make p (inTurn ps s)).2.openings =
      (inTurn ps s).openings ++ [.client region (some ⟨id, secret, token⟩) timeout]

/-- **What is made after other connections** is what would be made first, but for the variables
that those have set: some that were not set, from their files, and the one of the bearer token. -/
theorem isolated (ps : List Plan) (p : Plan) (s : Session) (h : s.obstacle = none) :
    Isolated ps p s := by
  have hleft := left_inTurn ps h
  refine ⟨hleft, fun hagree => ?_, fun id secret c hkeys hunset hfile hmade =>
    make_keys hkeys hleft.obstacle hunset hfile hmade⟩
  obtain ⟨r, env, env', steps, records, hfirst, hlater, -⟩ :=
    dependsOn_make p s (inTurn ps s) h hleft.obstacle hagree
  exact ⟨steps, by rw [hfirst, hlater], by rw [hfirst]; rfl, by rw [hlater]; rfl⟩

/-! ### Where others make a difference -/

/-- The keys that each step is taken with. -/
def keysUsed (steps : List Opening) : List (Option Keys) :=
  steps.map fun
    | .client _ keys _ => keys
    | _ => none

/-- A plan with a pair of keys. -/
def withKeys : Plan where
  policy := some {}
  arguments := [("access_key_id", .str "id"), ("secret_access_key", .str "secret")]

/-- A plan with a bearer token. -/
def withToken : Plan where
  policy := some {}
  arguments := [("bearer_token", .str "token-a")]

/-- A plan with a file that gives a variable which nothing reads. -/
def withFile : Plan where
  policy := some {}
  file := { bytes := some [79, 84, 72, 69, 82, 61, 49] }

/-- A file with other variables makes no difference to a connection with keys. -/
theorem keys_used_after_file :
    (inTurn [withFile] {}).environment = [("OTHER", "1")] ∧
      ∃ steps, (make withKeys (inTurn [withFile] {})).1 = (make withKeys {}).1 ∧
        (make withKeys {}).2.openings = [] ++ steps ∧
        (make withKeys (inTurn [withFile] {})).2.openings =
          (inTurn [withFile] {}).openings ++ steps := by
  have henv : (inTurn [withFile] {}).environment = [("OTHER", "1")] := by decide +kernel
  refine ⟨henv, (isolated [withFile] withKeys {} rfl).same ?_⟩
  rw [henv]
  decide +kernel

/-- **A bearer token of another connection is used in the place of keys**: what a connection is
opened with is not always what it would be opened with first. -/
theorem keys_passed_over_for_token :
    ¬ ∀ (ps : List Plan) (p : Plan) (s : Session), s.obstacle = none →
      ∃ steps, (make p s).2.openings = s.openings ++ steps ∧
        (make p (inTurn ps s)).2.openings = (inTurn ps s).openings ++ steps := by
  intro h
  obtain ⟨steps, hfirst, hlater⟩ := h [withToken] withKeys {} rfl
  have hkeys : keysUsed (make withKeys {}).2.openings = [some ⟨"id", "secret", none⟩] := by
    decide +kernel
  have hnone : keysUsed (make withKeys (inTurn [withToken] {})).2.openings = [none, none] := by
    decide +kernel
  have hsteps : keysUsed steps = [some ⟨"id", "secret", none⟩] := by
    rw [← hkeys, hfirst]
    rfl
  rw [hlater, keysUsed, List.map_append] at hnone
  have hlast := congrArg List.getLast? hnone
  rw [← keysUsed, ← keysUsed, hsteps] at hlast
  simp at hlast

end Connection

end Parley
