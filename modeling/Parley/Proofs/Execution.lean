/-
Running requested calls.

Every call has a result with the identifier of the call, whatever comes of it.  A
tool is called only if it is among those there are, under the name that the call
asks for, and only with arguments that it takes.
-/
import Parley.Tool.Execution
import Parley.Proofs.Outcome
import Parley.Proofs.Run
import Parley.Proofs.Value

namespace Parley

namespace Tool

/-- Whether there are arguments that a tool takes. -/
def TakesSome (t : Tool) : Prop := ∃ entries arguments, t.checked entries = .ok arguments

/-- **A tool that is called says so first, and once.** -/
theorem invoke_notes (t : Tool) (named : Properties) :
    ∃ records, (t.invoke named).1 = t.invocation :: records ∧
      ∀ r ∈ records, r.source = .tools ∧ r.isInvocation = false := by
  unfold invoke
  dsimp only
  split
  · exact ⟨[], rfl, by simp⟩
  · split
    · split
      · exact ⟨_, rfl, by simp [record, Record.isInvocation]⟩
      · exact ⟨_, rfl, by simp [record, Record.isInvocation]⟩
    · exact ⟨_, rfl, by simp [record, Record.isInvocation]⟩

theorem invoke_records {t : Tool} {named : Properties} {r : Record} (h : r ∈ (t.invoke named).1) :
    r.source = .tools ∧ (r.isInvocation = true → r = t.invocation) := by
  obtain ⟨records, hrecords, hall⟩ := t.invoke_notes named
  rw [hrecords] at h
  rcases List.mem_cons.mp h with rfl | h
  · exact ⟨rfl, fun _ => rfl⟩
  · obtain ⟨hsource, hno⟩ := hall r h
    exact ⟨hsource, fun hyes => absurd hyes (by simp [hno])⟩

/-- A tool that is called says so. -/
theorem invocation_mem (t : Tool) (named : Properties) : t.invocation ∈ (t.invoke named).1 := by
  obtain ⟨records, hrecords, -⟩ := t.invoke_notes named
  rw [hrecords]
  exact List.mem_cons_self

/-- What a tool returns is data that can be written out. -/
theorem invoke_writable {t : Tool} {named : Properties} {v : Document}
    (h : (t.invoke named).2 = .ok v) : v.writable = .ok () := by
  unfold invoke at h
  dsimp only at h
  split at h
  · cases h
  · split at h
    · split at h
      · rename_i hwritable
        obtain rfl := Except.ok.inj h
        exact hwritable
      · cases h
    · cases h

end Tool

namespace Call

/-- The result of a call carries the identifier of the call. -/
theorem run_id {tools : List (String × Tool)} {c : Call} {r : Result}
    (h : (run tools c).2 = .ok r) : r.id = c.id := by
  unfold run at h
  split at h
  · rw [← Except.ok.inj h]
    rfl
  · split at h
    · split at h
      · rw [← Except.ok.inj h]
        rfl
      · simp at h
    · rw [← Except.ok.inj h]
      split <;> rfl

/-- The result of a call is data that can be written out. -/
theorem run_writable {tools : List (String × Tool)} {c : Call} {r : Result}
    (h : (run tools c).2 = .ok r) : r.value.writable = .ok () := by
  unfold run at h
  split at h
  · obtain rfl := Except.ok.inj h
    rfl
  · split at h
    · split at h
      · obtain rfl := Except.ok.inj h
        rfl
      · simp at h
    · obtain rfl := Except.ok.inj h
      split
      · rename_i v hv
        exact Tool.invoke_writable hv
      · rfl

/-- A call calls the tool of its name, with arguments that the tool takes. -/
theorem run_records {tools : List (String × Tool)} {c : Call} {r : Record}
    (h : r ∈ (run tools c).1) :
    r.source = .tools ∧ (r.isInvocation = true →
      ∃ t, Entries.get? tools c.name = some t ∧ t.TakesSome ∧ r = t.invocation) := by
  have hrefused (name : String) (f : Fault) (h : r ∈ (c.refused name f).1) :
      r.source = .tools ∧ r.isInvocation = false := by
    rw [List.mem_singleton.mp h]
    exact ⟨rfl, rfl⟩
  unfold run at h
  split at h
  · obtain ⟨hsource, hno⟩ := hrefused _ _ h
    exact ⟨hsource, fun hr => absurd hr (by simp [hno])⟩
  · rename_i t ht
    split at h
    · split at h
      · obtain ⟨hsource, hno⟩ := hrefused _ _ h
        exact ⟨hsource, fun hr => absurd hr (by simp [hno])⟩
      · simp at h
    · rename_i arguments harguments
      obtain ⟨entries, -, hchecked⟩ := Outcome.bind_ok.mp harguments
      obtain ⟨hsource, hcalled⟩ := Tool.invoke_records h
      exact ⟨hsource, fun hr => ⟨t, ht, ⟨_, _, hchecked⟩, hcalled hr⟩⟩

/-- A call of a tool that takes the arguments calls that tool. -/
theorem invocation_mem_run {tools : List (String × Tool)} {c : Call} {t : Tool}
    {arguments : Properties} (ht : Entries.get? tools c.name = some t)
    (h : c.checkedArguments t = .ok arguments) : t.invocation ∈ (run tools c).1 := by
  unfold run
  rw [ht]
  dsimp only
  rw [h]
  exact Tool.invocation_mem t _

/-- A call ends a run only when the check of its arguments breaks down. -/
theorem run_error {tools : List (String × Tool)} {c : Call} {f : Fault}
    (h : (run tools c).2 = .error f) :
    ∃ t, Entries.get? tools c.name = some t ∧ c.checkedArguments t = .error f ∧
      f.isBadValue = false := by
  unfold run at h
  split at h
  · simp [refused] at h
  · rename_i t ht
    split at h
    · rename_i f' hf'
      split at h
      · simp [refused] at h
      · rename_i hbad
        obtain rfl := Except.error.inj h
        exact ⟨t, ht, hf', by simpa using hbad⟩
    · simp at h

/-- A call whose check breaks down ends a run. -/
theorem run_breaks {tools : List (String × Tool)} {c : Call} {t : Tool} {f : Fault}
    (ht : Entries.get? tools c.name = some t) (hf : c.checkedArguments t = .error f)
    (hbad : f.isBadValue = false) : (run tools c).2 = .error f := by
  unfold run
  rw [ht]
  dsimp only
  rw [hf]
  dsimp only
  rw [if_neg (by simp [hbad])]

/-- **Calls that are executed have one result each, in order**, or the check of the arguments of one
of them breaks down. -/
theorem execute_cases (calls : List Call) {vs : List Given} {tools : List (String × Tool)}
    (h : Tool.byName vs = .ok tools) :
    (∃ results, (execute calls vs).2 = .ok results ∧
      List.Forall₂ (fun c r => (run tools c).2 = .ok r) calls results) ∨
    ∃ f, (execute calls vs).2 = .error f ∧ ∃ c ∈ calls, ∃ t,
      Entries.get? tools c.name = some t ∧ c.checkedArguments t = .error f ∧
        f.isBadValue = false := by
  unfold execute
  rw [h]
  dsimp only
  cases hruns : (calls.map (run tools)).mapM Prod.snd with
  | ok results =>
      have hall := Outcome.mapM_ok.mp hruns
      rw [List.forall₂_map_left_iff] at hall
      exact .inl ⟨results, rfl, hall⟩
  | error f =>
      obtain ⟨x, hx, hf⟩ := Outcome.mapM_error hruns
      obtain ⟨c, hc, rfl⟩ := List.mem_map.mp hx
      exact .inr ⟨f, rfl, c, hc, run_error hf⟩

/-- Results of calls that were run carry the identifiers of the calls. -/
theorem run_ids {tools : List (String × Tool)} {calls : List Call} {results : List Result}
    (h : List.Forall₂ (fun c r => (run tools c).2 = .ok r) calls results) :
    results.map Result.id = calls.map Call.id := by
  induction h with
  | nil => rfl
  | cons hrun _ ih => rw [List.map_cons, List.map_cons, run_id hrun, ih]

/-- The results of calls are data that can be written out. -/
theorem execute_writable {calls : List Call} {vs : List Given} {results : List Result}
    (h : (execute calls vs).2 = .ok results) : ∀ r ∈ results, r.value.writable = .ok () := by
  unfold execute at h
  split at h
  · cases h
  · intro r hr
    obtain ⟨x, hx, hxr⟩ := exists_mem_of_forall₂ (Outcome.mapM_ok.mp h).flip hr
    obtain ⟨c, -, rfl⟩ := List.mem_map.mp hx
    exact run_writable hxr

/-- **Only tools that there are get called.** -/
theorem execute_records {calls : List Call} {vs : List Given} {r : Record}
    (h : r ∈ (execute calls vs).1) :
    r.source = .tools ∧ (r.isInvocation = true → ∃ tools name t, Tool.byName vs = .ok tools ∧
      Entries.get? tools name = some t ∧ t.TakesSome ∧ r = t.invocation) := by
  unfold execute at h
  split at h
  · simp at h
  · rename_i tools htools
    dsimp only at h
    obtain ⟨run', hrun, hr⟩ := List.mem_flatMap.mp h
    obtain ⟨c, -, rfl⟩ := List.mem_map.mp hrun
    obtain ⟨hsource, hcalled⟩ := run_records hr
    refine ⟨hsource, fun hinv => ?_⟩
    obtain ⟨t, ht, htakes, heq⟩ := hcalled hinv
    exact ⟨tools, c.name, t, htools, ht, htakes, heq⟩

end Call

end Parley
