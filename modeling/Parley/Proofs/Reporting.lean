/-
What is reported of calls.

Whatever goes wrong with a call is told in its result, so that each call has a result of its own and
the others are not affected: there is no tool of the name, the arguments cannot be read or do not
pass their check, or the function fails.  One thing is not told.  The check of arguments may break
down with a fault that says nothing about a bad value, and then there are no results at all.  Only
two causes of that are left: a text that is nested too deep, and a limit that is applied to a value
which does not support it.
-/
import Parley.Proofs.Arguments
import Parley.Proofs.Results

namespace Parley

namespace Tool

/-- The tools that values are or make. -/
def among (vs : List Given) : Except Fault (List Tool) :=
  (vs.mapM ofGiven?).map fun found => found.filterMap id

/-- The tool of a name; of several the last one. -/
def named? (ts : List Tool) (name : String) : Option Tool :=
  (ts.filter fun t => t.name == name).getLast?

/-- Tools under their names. -/
def table (ts : List Tool) : List (String × Tool) :=
  Entries.ofPairs (ts.map fun t => (t.name, t))

/-- The limits of a tool's parameters that do not belong to their types. -/
def limitsAfter (t : Tool) : List Limit :=
  match Input.ofTool? t with
  | some input => input.fields.flatMap fun field => field.2.1.after
  | none => []

theorem byName_eq (vs : List Given) : byName vs = (among vs).map table := by
  unfold byName among table
  cases vs.mapM ofGiven? <;> rfl

/-- **Of tools of the same name the last one is found.** -/
theorem get?_table (ts : List Tool) (name : String) :
    Entries.get? (table ts) name = named? ts name := by
  unfold table Entries.ofPairs named?
  rw [Entries.get?_union_last, List.filter_map, List.getLast?_map, Option.map_map,
    Entries.get?_nil, Option.or_none]
  exact Option.map_id'

theorem named?_name {ts : List Tool} {name : String} {t : Tool} (h : named? ts name = some t) :
    t ∈ ts ∧ t.name = name := by
  have hmem := List.mem_of_getLast? h
  rw [List.mem_filter] at hmem
  exact ⟨hmem.1, by simpa using hmem.2⟩

end Tool

/-! ### How a check breaks down -/

/-- The faults of applying a limit to a value that does not support it. -/
inductive Fault.Unsupported : Fault → Prop
  | wrongKind (text : String) : Unsupported (.wrongKind text)
  | noAttribute (text : String) : Unsupported (.noAttribute text)
  | overflow (text : String) : Unsupported (.overflow text)
  | divisionByZero : Unsupported .divisionByZero

namespace Limit

variable {l : Limit} {v : Document} {f : Fault}

theorem compared_error {holds : Ordering → Bool} {broken : Violation}
    (h : l.compared v holds broken = .error f) : f.Unsupported := by
  unfold compared at h
  split at h
  · cases h
  · cases h
    exact .wrongKind _

theorem measured_error {holds : Ordering → Bool} {broken : Violation}
    (h : l.measured v holds broken = .error f) : f.Unsupported := by
  unfold measured at h
  split at h
  · split at h
    · cases h
    · split at h
      · cases h
      · cases h
        exact .wrongKind _
  · cases h
    exact .wrongKind _

theorem divides_error {m : Document} (h : divides m v = .error f) : f.Unsupported := by
  have hreal : ∀ x y : Option Float, divides.real x y = .error f → f.Unsupported := by
    intro x y h
    unfold divides.real at h
    split at h
    · split at h
      · cases h
        exact .divisionByZero
      · cases h
    · cases h
      exact .overflow _
  unfold divides at h
  split at h
  · split at h
    · cases h
      exact .divisionByZero
    · cases h
  · exact hreal _ _ h
  · exact hreal _ _ h
  · exact hreal _ _ h
  · cases h

theorem textOf_error (h : l.textOf v = .error f) : f.Unsupported := by
  unfold textOf at h
  split at h
  · cases h
  · cases h
  · split at h
    · cases h
    · cases h
      exact .wrongKind _

/-- A limit breaks down only on a value that does not support it. -/
theorem after_error (h : l.after v = .error f) : f.Unsupported := by
  unfold after at h
  split at h
  · exact compared_error h
  · exact compared_error h
  · exact compared_error h
  · exact compared_error h
  · rcases Outcome.bind_error.mp h with hdivides | ⟨holds, -, h⟩
    · exact divides_error hdivides
    · cases holds with
      | some _ => cases h
      | none =>
          cases h
          exact .wrongKind _
  · exact measured_error h
  · exact measured_error h
  · rcases Outcome.bind_error.mp h with htext | ⟨_, -, h⟩
    · exact textOf_error htext
    · cases h
  · exact textOf_error (Outcome.map_error.mp h)
  · split at h
    · cases h
    · cases h
    · split at h
      · cases h
      · cases h
        exact .overflow _
    · cases h
      exact .wrongKind _
  · cases h
    exact .noAttribute _
  · cases h
    exact .noAttribute _
  · cases h

end Limit

namespace Field

theorem checkAfter_error {ls : List Limit} {v : Document} {f : Fault}
    (h : checkAfter ls v = .error f) : ∃ l ∈ ls, ∃ w, l.after w = .error f := by
  induction ls generalizing v with
  | nil => cases h
  | cons l rest ih =>
      unfold checkAfter at h
      rcases Outcome.bind_error.mp h with hl | ⟨checked, -, h⟩
      · exact ⟨l, by simp, v, hl⟩
      · cases checked with
        | ok w =>
            obtain ⟨l', hmem, hl'⟩ := ih h
            exact ⟨l', by simp [hmem], hl'⟩
        | error issues => cases h

theorem check_error {f : Field} {v : Document} {fault : Fault} (h : f.check v = .error fault) :
    ∃ l ∈ f.after, ∃ w, l.after w = .error fault := by
  unfold check at h
  split at h
  · cases h
  · split at h
    · exact checkAfter_error h
    · cases h

end Field

namespace Input

/-- The value of one field, from the arguments given. -/
def readOne (entries : Properties) (name : String) (f : Field) (default : Option Document) :
    Except Fault (Checked Document) :=
  match Entries.get? entries (f.key name), default with
  | some v, _ => (f.check v).map (Checked.named (f.key name))
  | none, some d =>
    if f.isOn "validate_default" then (f.check d).map (Checked.named (f.key name)) else .ok (.ok d)
  | none, none => .ok (.error [⟨[.field (f.key name)], .missing⟩])

theorem read_cons (entries : Properties) (name : String) (f : Field) (default : Option Document)
    (rest : List (String × Field × Option Document)) :
    read entries ((name, f, default) :: rest) =
      readOne entries name f default >>= fun v => read entries rest >>= fun more =>
        .ok (Checked.ap (v.map fun v rest => (name, v) :: rest) more) := by
  conv_lhs => unfold read
  unfold readOne
  dsimp only
  cases Entries.get? entries (f.key name) with
  | some v => rfl
  | none =>
      cases default with
      | none => rfl
      | some d =>
          dsimp only
          split <;> rfl

theorem readOne_error {entries : Properties} {name : String} {f : Field}
    {default : Option Document} {fault : Fault}
    (h : readOne entries name f default = .error fault) :
    ∃ l ∈ f.after, ∃ w, l.after w = .error fault := by
  unfold readOne at h
  split at h
  · exact Field.check_error (Outcome.map_error.mp h)
  · split at h
    · exact Field.check_error (Outcome.map_error.mp h)
    · cases h
  · cases h

theorem read_error {entries : Properties} {fields : List (String × Field × Option Document)}
    {fault : Fault} (h : read entries fields = .error fault) :
    ∃ field ∈ fields, ∃ l ∈ field.2.1.after, ∃ w, l.after w = .error fault := by
  induction fields with
  | nil => cases h
  | cons field rest ih =>
      obtain ⟨name, f, default⟩ := field
      rw [read_cons] at h
      rcases Outcome.bind_error.mp h with hone | ⟨_, -, h⟩
      · exact ⟨_, List.mem_cons_self, readOne_error hone⟩
      · rcases Outcome.bind_error.mp h with hrest | ⟨_, -, h⟩
        · obtain ⟨field, hmem, hfield⟩ := ih hrest
          exact ⟨field, List.mem_cons_of_mem _ hmem, hfield⟩
        · cases h

end Input

/-- A check against an input that is there breaks down only with a limit. -/
theorem Tool.checked_error {t : Tool} {entries : Properties} {f : Fault}
    (hdef : (Input.ofTool? t).isSome = true) (h : t.checked entries = .error f)
    (hbad : f.isBadValue = false) : ∃ l ∈ t.limitsAfter, ∃ w, l.after w = .error f := by
  obtain ⟨input, hinput⟩ := Option.isSome_iff_exists.mp hdef
  unfold checked at h
  rw [hinput] at h
  rcases Outcome.bind_error.mp h with hread | ⟨values, -, h⟩
  · obtain ⟨field, hmem, l, hl, hw⟩ := Input.read_error hread
    refine ⟨l, ?_, hw⟩
    unfold limitsAfter
    rw [hinput]
    exact List.mem_flatMap.mpr ⟨field, hmem, hl⟩
  · cases values with
    | ok vs => cases h
    | error issues =>
        obtain rfl := Except.error.inj h
        cases hbad

/-! ### What is told of one call -/

/-- A result tells a fault, in words and as the reason. -/
structure Result.Reports (r : Result) (f : Fault) : Prop where
  value : r.value = .str ("Error: " ++ f.message)
  fault : r.fault = some f

/-- What comes of a tool with checked arguments: what its function returns or raises.  A number that
is too long to be written out is a fault of its own, among the arguments or in what is returned. -/
def Tool.outcome (t : Tool) (vs : Properties) : Except Fault Document := do
  (Value.obj (t.passed vs) : Document).writable
  let v ← t.function.call [] (t.passed vs)
  v.writable
  return v

/-- Whether a block is marked as one of a result that is an error. -/
def Wire.saysError (b : Document) : Bool :=
  ((b.get? "toolResult").bind fun result => (result.get? "status").bind Value.asString?) ==
    some "error"

theorem Wire.saysError_toolResult (r : Result) :
    saysError (Block.toolResult r) = r.fault.isSome := by
  unfold Block.toolResult
  cases r.fault <;> rfl

namespace Call

/-- The check of a call's arguments breaks down: the fault is not about a bad value. -/
def BreaksDown (ts : List Tool) (c : Call) (f : Fault) : Prop :=
  ∃ t, Tool.named? ts c.name = some t ∧ c.checkedArguments t = .error f ∧ f.isBadValue = false

/-- A call succeeds with a value: its arguments pass the check, and its tool gives the value. -/
def Succeeds (ts : List Tool) (c : Call) (v : Document) : Prop :=
  ∃ t vs, Tool.named? ts c.name = some t ∧ c.checkedArguments t = .ok vs ∧ t.outcome vs = .ok v

/-- No function is called for a call. -/
def Uncalled (ts : List Tool) (c : Call) : Prop :=
  ∀ x ∈ (run (Tool.table ts) c).1, x.isInvocation = false

/-- The result that tells what came of a call. -/
structure Answered (ts : List Tool) (c : Call) (r : Result) : Prop where
  id : r.id = c.id
  name : r.name = some c.name
  unknown : Tool.named? ts c.name = none → r.Reports (unknownName c.name) ∧ c.Uncalled ts
  refused : ∀ t f, Tool.named? ts c.name = some t → c.checkedArguments t = .error f →
    r.Reports (invalidArguments c.name f) ∧ c.Uncalled ts
  raised : ∀ t vs f, Tool.named? ts c.name = some t → c.checkedArguments t = .ok vs →
    t.outcome vs = .error f → r.Reports f
  returned : ∀ v, c.Succeeds ts v → r.value = v
  failed : r.fault.isSome = true ↔ ¬ ∃ v, c.Succeeds ts v

variable {ts : List Tool} {c : Call}

/-- Arguments that cannot be read are bad values, unless they are nested too deep. -/
theorem parsed_error {f : Fault} (h : c.parsed = .error f) (hbad : f.isBadValue = false) :
    f = .tooDeep := by
  unfold parsed at h
  split at h
  · cases h
  · cases h
  · split at h
    · cases h
    · split at h
      · rename_i flaw _
        obtain rfl := Except.error.inj h
        cases flaw with
        | tooDeep => rfl
        | syntaxError _ _ _ _ => cases hbad
        | longNumber _ => cases hbad
      · cases h
      · cases h

theorem succeeds_iff {t : Tool} {vs : Properties} (ht : Tool.named? ts c.name = some t)
    (hvs : c.checkedArguments t = .ok vs) {v : Document} :
    c.Succeeds ts v ↔ t.outcome vs = .ok v := by
  constructor
  · rintro ⟨t', vs', ht', hvs', h⟩
    obtain rfl : t = t' := Option.some.inj (ht.symm.trans ht')
    obtain rfl : vs = vs' := Except.ok.inj (hvs.symm.trans hvs')
    exact h
  · exact fun h => ⟨t, vs, ht, hvs, h⟩

theorem uncalled_refused {name : String} {f : Fault}
    (h : run (Tool.table ts) c = c.refused name f) : c.Uncalled ts := by
  intro x hx
  rw [h] at hx
  obtain rfl := List.mem_singleton.mp hx
  rfl

theorem answered_unknown (ht : Tool.named? ts c.name = none) :
    ∃ r, (run (Tool.table ts) c).2 = .ok r ∧ Answered ts c r := by
  have hrun : run (Tool.table ts) c = c.refused c.name (unknownName c.name) := by
    unfold run
    rw [Tool.get?_table, ht]
  refine ⟨c.failed c.name (unknownName c.name), by rw [hrun]; rfl, ?_⟩
  exact {
    id := rfl
    name := rfl
    unknown := fun _ => ⟨⟨rfl, rfl⟩, uncalled_refused hrun⟩
    refused := fun t f h => by simp [ht] at h
    raised := fun t vs f h => by simp [ht] at h
    returned := fun v ⟨t, _, h, _⟩ => by simp [ht] at h
    failed := by simp [failed, Succeeds, ht] }

theorem answered_refused {t : Tool} {f : Fault} (ht : Tool.named? ts c.name = some t)
    (hf : c.checkedArguments t = .error f) (hbad : f.isBadValue = true) :
    ∃ r, (run (Tool.table ts) c).2 = .ok r ∧ Answered ts c r := by
  obtain ⟨-, hname⟩ := Tool.named?_name ht
  have hrun : run (Tool.table ts) c = c.refused c.name (invalidArguments c.name f) := by
    unfold run
    rw [Tool.get?_table, ht]
    dsimp only
    rw [hf]
    dsimp only
    rw [if_pos hbad, hname]
  have hno : ∀ v, ¬ c.Succeeds ts v := by
    rintro v ⟨t', vs, ht', hvs, -⟩
    obtain rfl : t = t' := Option.some.inj (ht.symm.trans ht')
    exact absurd (hf.symm.trans hvs) (by simp)
  refine ⟨c.failed c.name (invalidArguments c.name f), by rw [hrun]; rfl, ?_⟩
  exact {
    id := rfl
    name := rfl
    unknown := fun h => by simp [ht] at h
    refused := fun t' f' ht' hf' => by
      obtain rfl : t = t' := Option.some.inj (ht.symm.trans ht')
      obtain rfl : f = f' := Except.error.inj (hf.symm.trans hf')
      exact ⟨⟨rfl, rfl⟩, uncalled_refused hrun⟩
    raised := fun t' vs g ht' hvs => by
      obtain rfl : t = t' := Option.some.inj (ht.symm.trans ht')
      exact absurd (hf.symm.trans hvs) (by simp)
    returned := fun v hv => absurd hv (hno v)
    failed := by simpa [failed] using hno }

theorem answered_called {t : Tool} {vs : Properties} (ht : Tool.named? ts c.name = some t)
    (hvs : c.checkedArguments t = .ok vs) :
    ∃ r, (run (Tool.table ts) c).2 = .ok r ∧ Answered ts c r := by
  obtain ⟨-, hname⟩ := Tool.named?_name ht
  have hrun : (run (Tool.table ts) c).2 = .ok (c.told t (t.outcome vs)) := by
    rw [run_checked ((Tool.get?_table ts c.name).trans ht) hvs, Tool.invoke_value]
    rfl
  refine ⟨_, hrun, ?_⟩
  exact {
    id := by cases t.outcome vs <;> rfl
    name := by rw [← hname]; cases t.outcome vs <;> rfl
    unknown := fun h => by simp [ht] at h
    refused := fun t' f ht' hf => by
      obtain rfl : t = t' := Option.some.inj (ht.symm.trans ht')
      exact absurd (hvs.symm.trans hf) (by simp)
    raised := fun t' vs' f ht' hvs' hf => by
      obtain rfl : t = t' := Option.some.inj (ht.symm.trans ht')
      obtain rfl : vs = vs' := Except.ok.inj (hvs.symm.trans hvs')
      rw [hf]
      exact ⟨rfl, rfl⟩
    returned := fun v hv => by
      rw [(succeeds_iff ht hvs).mp hv]
      rfl
    failed := by
      simp only [succeeds_iff ht hvs]
      cases t.outcome vs <;> simp [told, failed] }

/-- **A call whose check does not break down has a result** that tells what came of it. -/
theorem run_answered (h : ∀ f, ¬ c.BreaksDown ts f) :
    ∃ r, (run (Tool.table ts) c).2 = .ok r ∧ Answered ts c r := by
  rcases ht : Tool.named? ts c.name with _ | t
  · exact answered_unknown ht
  · rcases hvs : c.checkedArguments t with f | vs
    · refine answered_refused ht hvs ?_
      by_contra hbad
      exact h f ⟨t, ht, hvs, by simpa using hbad⟩
    · exact answered_called ht hvs

/-- A call whose check breaks down has no result. -/
theorem run_breaksDown {f : Fault} (h : c.BreaksDown ts f) :
    (run (Tool.table ts) c).2 = .error f := by
  obtain ⟨t, ht, hf, hbad⟩ := h
  exact run_breaks ((Tool.get?_table ts c.name).trans ht) hf hbad

theorem not_breaksDown (h : (run (Tool.table ts) c).2.isOk = true) (f : Fault) :
    ¬ c.BreaksDown ts f := by
  intro hf
  rw [run_breaksDown hf] at h
  cases h

/-- What the check of a call breaks down with: its arguments are a text that is nested too deep, or
a limit of a parameter is applied to a value which does not support it. -/
theorem breaksDown_cause {f : Fault} (hdef : ∀ t ∈ ts, (Input.ofTool? t).isSome = true)
    (h : c.BreaksDown ts f) :
    (c.parsed = .error .tooDeep ∧ f = .tooDeep) ∨
      ∃ t, Tool.named? ts c.name = some t ∧ f.Unsupported ∧
        ∃ l ∈ t.limitsAfter, ∃ w, l.after w = .error f := by
  obtain ⟨t, ht, hf, hbad⟩ := h
  rcases Outcome.bind_error.mp hf with hparsed | ⟨given, -, hchecked⟩
  · obtain rfl := parsed_error hparsed hbad
    exact .inl ⟨hparsed, rfl⟩
  · obtain ⟨l, hl, w, hw⟩ := Tool.checked_error (hdef t (Tool.named?_name ht).1) hchecked hbad
    exact .inr ⟨t, ht, Limit.after_error hw, l, hl, w, hw⟩

/-! ### All calls -/

variable {vs : List Given}

theorem execute_eq (calls : List Call) (hts : Tool.among vs = .ok ts) :
    (execute calls vs).2 = calls.mapM fun c => (run (Tool.table ts) c).2 := by
  unfold execute
  rw [Tool.byName_eq, hts]
  exact List.mapM_map

/-- Calls none of whose checks breaks down have a result each, in order. -/
theorem execute_answered {calls : List Call} (hts : Tool.among vs = .ok ts)
    (h : ∀ c ∈ calls, ∀ f, ¬ c.BreaksDown ts f) :
    ∃ results, (execute calls vs).2 = .ok results ∧ List.Forall₂ (Answered ts) calls results := by
  obtain ⟨results, hall⟩ : ∃ results, List.Forall₂
      (fun r c => (run (Tool.table ts) c).2 = .ok r ∧ Answered ts c r) results calls :=
    exists_forall₂ fun c hc => run_answered (h c hc)
  refine ⟨results, ?_, hall.flip.imp fun _ _ hc => hc.2⟩
  rw [execute_eq calls hts]
  exact Outcome.mapM_ok.mpr (hall.flip.imp fun _ _ hc => hc.1)

/-- The first call whose check breaks down ends them all. -/
theorem execute_breaks {earlier later : List Call} {f : Fault} (hts : Tool.among vs = .ok ts)
    (hearlier : ∀ e ∈ earlier, ∀ g, ¬ e.BreaksDown ts g) (h : c.BreaksDown ts f) :
    (execute (earlier ++ c :: later) vs).2 = .error f := by
  obtain ⟨results, hresults, -⟩ := execute_answered hts hearlier
  rw [execute_eq earlier hts] at hresults
  rw [execute_eq _ hts, Outcome.mapM_append, hresults, Outcome.ok_bind, Outcome.mapM_cons,
    run_breaksDown h, Outcome.error_bind, Outcome.error_bind]

/-- The blocks of results are marked as errors for the calls that failed. -/
theorem marked_failed {calls : List Call} {results : List Result}
    (h : List.Forall₂ (Answered ts) calls results) :
    List.Forall₂ (fun c b => Wire.saysError b = true ↔ ¬ ∃ v, c.Succeeds ts v) calls
      (results.map Block.toolResult) := by
  rw [List.forall₂_map_right_iff]
  refine h.imp fun c r hr => ?_
  rw [Wire.saysError_toolResult]
  exact hr.failed

/-- **Every failure is told in place.**  Calls have a result each, in their order, and the blocks of
the results are marked as errors for the calls that failed, unless the check of a call's arguments
breaks down; then the first such call ends them all.  That takes a text that is nested too deep, or
a limit that is applied to a value which does not support it. -/
theorem failures_reported (calls : List Call) (hts : Tool.among vs = .ok ts)
    (hdef : ∀ t ∈ ts, (Input.ofTool? t).isSome = true) :
    ((∀ c ∈ calls, ∀ f, ¬ c.BreaksDown ts f) →
      ∃ results blocks, (execute calls vs).2 = .ok results ∧
        List.Forall₂ (Answered ts) calls results ∧
        Block.ofContents (results.map Content.ofResult) = .ok blocks ∧
        List.Forall₂ (fun c b => Wire.saysError b = true ↔ ¬ ∃ v, c.Succeeds ts v)
          calls blocks) ∧
    (∀ earlier c later f, calls = earlier ++ c :: later →
      (∀ e ∈ earlier, ∀ g, ¬ e.BreaksDown ts g) → c.BreaksDown ts f →
      (execute calls vs).2 = .error f ∧
        ((c.parsed = .error .tooDeep ∧ f = .tooDeep) ∨
          ∃ t, Tool.named? ts c.name = some t ∧ f.Unsupported ∧
            ∃ l ∈ t.limitsAfter, ∃ w, l.after w = .error f)) := by
  constructor
  · intro h
    obtain ⟨results, hresults, hall⟩ := execute_answered hts h
    have hwritable : ∀ r ∈ results, Block.checkResult r.value = .ok () := fun r hr =>
      Wire.checkResult_writable (execute_writable hresults r hr)
    refine ⟨results, _, hresults, hall, Wire.ofContents_results ?_ hwritable, marked_failed hall⟩
    rw [List.map_map]
    rfl
  · rintro earlier c later f rfl hearlier h
    exact ⟨execute_breaks hts hearlier h, breaksDown_cause hdef h⟩

/-! ### A tool with a limit that not every value supports -/

/-- A tool whose one parameter takes a number or a text, and has to be above three. -/
def above : Tool where
  name := "f"
  function := {
    name := "f"
    parameters := [{ name := "v", annotation := some {
      kind := .intOrStr, notes := [.rule { limits := [⟨.above, .int 3⟩] }] } }] }

/-- A call of the tool. -/
def atAbove (id : String) (v : Document) : Call := ⟨id, "f", .entries [("v", v)], none⟩

/-- A call with a number above three, one with a number that is too small, and one of a tool that
there is not. -/
def atAboveCalls : List Call :=
  [atAbove "t1" (.int 5), atAbove "t2" (.int 2), { id := "t3", name := "g" }]

/-- Of these calls the first gives a value, and the faults of the others are told beside it. -/
theorem above_reported :
    ∃ results blocks, (execute atAboveCalls [.leaf (.tool above)]).2 = .ok results ∧
      results.map (fun r => (r.id, r.fault.isSome)) = [("t1", false), ("t2", true), ("t3", true)] ∧
      List.Forall₂ (Answered [above]) atAboveCalls results ∧
      Block.ofContents (results.map Content.ofResult) = .ok blocks ∧
      List.Forall₂ (fun c b => Wire.saysError b = true ↔ ¬ ∃ v, c.Succeeds [above] v)
        atAboveCalls blocks := by
  have hts : Tool.among [.leaf (.tool above)] = .ok [above] := rfl
  have hdef : ∀ t ∈ [above], (Input.ofTool? t).isSome = true := by decide +kernel
  have hrun : ∀ c ∈ atAboveCalls, (run (Tool.table [above]) c).2.isOk = true := by
    decide +kernel
  have hfaults : ((execute atAboveCalls [.leaf (.tool above)]).2.toOption.map
      fun results => results.map fun r => (r.id, r.fault.isSome)) =
      some [("t1", false), ("t2", true), ("t3", true)] := by
    decide +kernel
  obtain ⟨results, blocks, hresults, hall, hblocks, hmarked⟩ :=
    (failures_reported atAboveCalls hts hdef).1 fun c hc => not_breaksDown (hrun c hc)
  rw [hresults] at hfaults
  exact ⟨results, blocks, hresults, Option.some.inj hfaults, hall, hblocks, hmarked⟩

/-- A text for it breaks the check down, and the call before it has no result either, although the
tool's input is there. -/
theorem text_above_unreported :
    (Input.ofTool? above).isSome = true ∧
    (execute [atAbove "t1" (.int 5)] [.leaf (.tool above)]).2.isOk = true ∧
    (execute [atAbove "t1" (.int 5), atAbove "t2" (.str "9")] [.leaf (.tool above)]).2.isOk =
      false := by
  decide +kernel

end Call

end Parley
