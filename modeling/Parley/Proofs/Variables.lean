/-
What reading a file does to the variables of a process.

A file sets variables that are not set and touches no other, so what is set stays as it is, what is
new is named in the file, and reading a file again changes nothing.  What reading comes to depends
on some variables only: the one that forbids it, those that the file names and those that its texts
refer to.  Two processes that agree on these still agree on them when both have read the file.
-/
import Parley.Environment.File
import Parley.Proofs.Reply

namespace Parley

namespace Environment

variable {env env' : Environment} {name text : String}

theorem set_ok (h : env.set name text = .ok env') : env' = Entries.put env name text := by
  unfold set at h
  split at h
  · cases h
  · split at h
    · cases h
    · exact (Except.ok.inj h).symm

theorem has_iff : Entries.has env name = true ↔ ∃ text, Entries.get? env name = some text := by
  rw [Value.has_eq_isSome, Option.isSome_iff_exists]

/-! ### What is set stays as it is -/

/-- Whatever is set in the one is set to the same text in the other. -/
def Extends (env env' : Environment) : Prop :=
  ∀ name text, Entries.get? env name = some text → Entries.get? env' name = some text

namespace Extends

theorem refl (env : Environment) : Extends env env := fun _ _ h => h

theorem trans {env'' : Environment} (h : Extends env env') (h' : Extends env' env'') :
    Extends env env'' :=
  fun name text hget => h' name text (h name text hget)

theorem has (h : Extends env env') (hhas : Entries.has env name = true) :
    Entries.has env' name = true := by
  obtain ⟨text, htext⟩ := has_iff.mp hhas
  exact has_iff.mpr ⟨text, h name text htext⟩

/-- Setting a variable that is not set touches no other. -/
theorem put (h : Entries.has env name = false) (text : String) :
    Extends env (Entries.put env name text) := by
  intro other t hget
  rw [Entries.get?_put]
  split
  · rename_i heq
    subst heq
    rw [has_iff.mpr ⟨t, hget⟩] at h
    cases h
  · exact hget

end Extends

theorem fill_cons_set {pairs : List (String × Option String)} (hhas : Entries.has env name = false)
    (hset : env.set name text = .ok env') : fill ((name, some text) :: pairs) env = fill pairs env' := by
  rw [fill, hset]
  exact hhas

theorem fill_cons_fault {pairs : List (String × Option String)} {f : Fault}
    (hhas : Entries.has env name = false) (hset : env.set name text = .error f) :
    fill ((name, some text) :: pairs) env = (env, some f) := by
  rw [fill, hset]
  exact hhas

/-- A variable that is set, or that is given no text, is passed over. -/
theorem fill_cons_kept {pairs : List (String × Option String)} {e : String × Option String}
    (h : e.2.isSome = true → Entries.has env e.1 = true) :
    fill (e :: pairs) env = fill pairs env := by
  obtain ⟨name, text?⟩ := e
  rw [fill]
  intro text hhas htext
  have hset := h (by rw [htext]; rfl)
  rw [hset] at hhas
  cases hhas

/-- The ways in which one variable is gone over. -/
theorem fill_cons_cases (e : String × Option String) (pairs : List (String × Option String))
    (env : Environment) :
    (fill (e :: pairs) env = fill pairs env ∧
      (e.2.isSome = true → Entries.has env e.1 = true)) ∨
    ∃ text, e.2 = some text ∧ Entries.has env e.1 = false ∧
      ((env.set e.1 text = .ok (Entries.put env e.1 text) ∧
          fill (e :: pairs) env = fill pairs (Entries.put env e.1 text)) ∨
        ∃ f, env.set e.1 text = .error f ∧ fill (e :: pairs) env = (env, some f)) := by
  by_cases hkept : e.2.isSome = true → Entries.has env e.1 = true
  · exact .inl ⟨fill_cons_kept hkept, hkept⟩
  · obtain ⟨name, _ | text⟩ := e
    · simp at hkept
    · have hhas : Entries.has env name = false := by simpa using hkept
      refine .inr ⟨text, rfl, hhas, ?_⟩
      cases hset : env.set name text with
      | error f => exact .inr ⟨f, rfl, fill_cons_fault hhas hset⟩
      | ok env' =>
          obtain rfl := set_ok hset
          exact .inl ⟨rfl, fill_cons_set hhas hset⟩

theorem extends_fill (pairs : List (String × Option String)) (env : Environment) :
    Extends env (fill pairs env).1 := by
  induction pairs generalizing env with
  | nil => exact .refl env
  | cons e rest ih =>
      rcases fill_cons_cases e rest env with ⟨h, -⟩ | ⟨text, -, hhas, ⟨-, h⟩ | ⟨f, -, h⟩⟩
      · rw [h]
        exact ih env
      · rw [h]
        exact (Extends.put hhas text).trans (ih _)
      · rw [h]
        exact .refl env

/-- **What is set stays set** to what it was, whatever file is read. -/
theorem extends_load (env : Environment) (f : File) : Extends env (load env f).1 := by
  unfold load
  split
  · exact .refl env
  · split
    · exact extends_fill _ _
    · exact .refl env

/-! ### Reading again -/

/-- Every variable that is given a text is set afterwards. -/
theorem fill_sets {pairs : List (String × Option String)} (h : fill pairs env = (env', none))
    {e : String × Option String} (he : e ∈ pairs) (htext : e.2.isSome = true) :
    Entries.has env' e.1 = true := by
  induction pairs generalizing env with
  | nil => simp at he
  | cons d rest ih =>
      rcases fill_cons_cases d rest env with ⟨hfill, hkept⟩ | ⟨text, hd, -, ⟨-, hfill⟩ | ⟨f, -, hfill⟩⟩
      · rw [hfill] at h
        rcases List.mem_cons.mp he with rfl | he
        · have hextends := extends_fill rest env
          rw [h] at hextends
          exact hextends.has (hkept htext)
        · exact ih h he
      · rw [hfill] at h
        rcases List.mem_cons.mp he with rfl | he
        · have hextends := extends_fill rest (Entries.put env e.1 text)
          rw [h] at hextends
          refine hextends.has (has_iff.mpr ⟨text, ?_⟩)
          rw [Entries.get?_put, if_pos rfl]
        · exact ih h he
      · rw [hfill] at h
        cases h

/-- Where every variable that is given a text is set, there is nothing to do. -/
theorem fill_settled {pairs : List (String × Option String)}
    (h : ∀ e ∈ pairs, e.2.isSome = true → Entries.has env e.1 = true) :
    fill pairs env = (env, none) := by
  induction pairs with
  | nil => rfl
  | cons d rest ih =>
      rw [fill_cons_kept (h d (by simp))]
      exact ih fun e he => h e (by simp [he])

/-- Which variables are given a text. -/
def shape (pairs : List (String × Option String)) : List (String × Bool) :=
  pairs.map fun e => (e.1, e.2.isSome)

theorem shape_put (pairs : List (String × Option String)) (name : String) (t : Option String) :
    shape (Entries.put pairs name t) = Entries.put (shape pairs) name t.isSome := by
  unfold shape
  induction pairs with
  | nil => rfl
  | cons e rest ih =>
      unfold Entries.put
      by_cases h : e.1 = name
      · simp [h]
      · simp [h, ih]

/-- Which variables a file gives a text does not depend on those of the process. -/
theorem shape_resolved (env : Environment) (bs : List Binding) :
    shape (resolved env bs) =
      bs.foldl (fun acc b => Entries.put acc b.name b.text.isSome) [] := by
  unfold resolved
  exact (List.foldl_hom shape fun acc b => by rw [shape_put, Option.isSome_map]).symm

/-- **Reading a file again changes nothing.** -/
theorem load_idem {f : File} (h : load env f = (env', none)) : load env' f = (env', none) := by
  by_cases hdisabled : isDisabled env' = true
  · rw [load, if_pos hdisabled]
  · -- a process that may not read files before does not get to by reading this one
    have hbefore : ¬ isDisabled env = true := by
      intro hbefore
      rw [load, if_pos hbefore] at h
      obtain rfl := (Prod.mk.inj h).1
      exact hdisabled hbefore
    rw [load, if_neg hbefore] at h
    rw [load, if_neg hdisabled]
    cases hcs : f.characters with
    | error fault =>
        rw [hcs] at h
        cases h
    | ok cs =>
        rw [hcs] at h
        refine fill_settled fun e he htext => ?_
        have hshape : (e.1, e.2.isSome) ∈ shape (resolved env (bindings cs)) := by
          rw [shape_resolved, ← shape_resolved env']
          exact List.mem_map_of_mem he
        obtain ⟨d, hd, heq⟩ := List.mem_map.mp hshape
        obtain ⟨hname, hsome⟩ := Prod.mk.inj heq
        rw [← hname]
        exact fill_sets h hd (hsome.trans htext)

/-! ### What is new -/

/-- The variables that a file gives, those without a text among them. -/
def named (f : File) : List String :=
  match f.characters with
  | .ok cs => (bindings cs).map Binding.name
  | .error _ => []

theorem mem_fst_put {pairs : List (String × Option String)} {t : Option String}
    {e : String × Option String} (h : e ∈ Entries.put pairs name t) :
    e.1 = name ∨ e.1 ∈ pairs.map Prod.fst := by
  have hmem : e.1 ∈ (Entries.put pairs name t).map Prod.fst := List.mem_map_of_mem h
  rw [Entries.map_fst_put] at hmem
  split at hmem
  · exact .inr hmem
  · rcases List.mem_append.mp hmem with hmem | hmem
    · exact .inr hmem
    · exact .inl (List.mem_singleton.mp hmem)

theorem resolved_names {bs : List Binding} {e : String × Option String}
    (hmem : e ∈ resolved env bs) : e.1 ∈ bs.map Binding.name := by
  have hfold (acc : List (String × Option String))
      (h : e ∈ bs.foldl (fun acc b => Entries.put acc b.name
        (b.text.map (expand (meaning env acc)))) acc) :
      e.1 ∈ acc.map Prod.fst ∨ e.1 ∈ bs.map Binding.name := by
    clear hmem
    induction bs generalizing acc with
    | nil => exact .inl (List.mem_map_of_mem h)
    | cons b rest ih =>
        rcases ih _ h with hacc | hrest
        · obtain ⟨d, hd, heq⟩ := List.mem_map.mp hacc
          rcases mem_fst_put hd with hname | hacc
          · exact .inr (by simp [← heq, hname])
          · exact .inl (heq ▸ hacc)
        · exact .inr (by simp [hrest])
  simpa using hfold [] hmem

theorem fill_new {pairs : List (String × Option String)}
    (hbefore : Entries.has env name = false) (hafter : Entries.has (fill pairs env).1 name = true) :
    name ∈ pairs.map Prod.fst := by
  induction pairs generalizing env with
  | nil => simp [fill, hbefore] at hafter
  | cons e rest ih =>
      rcases fill_cons_cases e rest env with ⟨h, -⟩ | ⟨text, -, -, ⟨-, h⟩ | ⟨f, -, h⟩⟩
      · rw [h] at hafter
        exact List.mem_cons_of_mem _ (ih hbefore hafter)
      · rw [h] at hafter
        by_cases hname : e.1 = name
        · simp [hname]
        · refine List.mem_cons_of_mem _ (ih ?_ hafter)
          rw [Value.has_eq_isSome, Entries.get?_put, if_neg hname, ← Value.has_eq_isSome]
          exact hbefore
      · rw [h, hbefore] at hafter
        cases hafter

/-- **What is new is named in the file** that was read. -/
theorem load_new {f : File} (hbefore : Entries.has env name = false)
    (hafter : Entries.has (load env f).1 name = true) : name ∈ named f := by
  unfold load at hafter
  by_cases hdisabled : isDisabled env = true
  · rw [if_pos hdisabled, hbefore] at hafter
    cases hafter
  · rw [if_neg hdisabled] at hafter
    unfold named
    cases hcs : f.characters with
    | error fault =>
        rw [hcs] at hafter
        dsimp only at hafter
        rw [hbefore] at hafter
        cases hafter
    | ok cs =>
        rw [hcs] at hafter
        obtain ⟨e, he, rfl⟩ := List.mem_map.mp (fill_new hbefore hafter)
        exact resolved_names he

/-- Variables were set that were not set before, all of them among those named. -/
structure Filled (names : List String) (env env' : Environment) : Prop where
  kept : Extends env env'
  new : ∀ name, Entries.has env name = false → Entries.has env' name = true → name ∈ names

namespace Filled

variable {names : List String}

theorem refl (env : Environment) : Filled names env env :=
  ⟨.refl env, fun _ hbefore hafter => absurd hafter (by simp [hbefore])⟩

theorem trans {env'' : Environment} (h : Filled names env env') (h' : Filled names env' env'') :
    Filled names env env'' where
  kept := h.kept.trans h'.kept
  new name hbefore hafter := by
    cases hmid : Entries.has env' name with
    | true => exact h.new name hbefore hmid
    | false => exact h'.new name hmid hafter

theorem mono {more : List String} (h : Filled names env env') (hsub : names ⊆ more) :
    Filled more env env' :=
  ⟨h.kept, fun name hbefore hafter => hsub (h.new name hbefore hafter)⟩

/-- A variable that is not among those named is as it was. -/
theorem get? (h : Filled names env env') (hname : name ∉ names) :
    Entries.get? env' name = Entries.get? env name := by
  cases hget : Entries.get? env name with
  | some text => exact h.kept name text hget
  | none =>
      cases hget' : Entries.get? env' name with
      | none => rfl
      | some text =>
          refine absurd (h.new name ?_ (has_iff.mpr ⟨text, hget'⟩)) hname
          rw [Value.has_eq_isSome, hget]
          rfl

end Filled

theorem filled_load (env : Environment) (f : File) : Filled (named f) env (load env f).1 :=
  ⟨extends_load env f, fun _ hbefore hafter => load_new hbefore hafter⟩

/-! ### What reading depends on -/

/-- The variables that characters refer to, at most so many references far. -/
def references : Nat → List Char → List String
  | 0, _ => []
  | _ + 1, [] => []
  | fuel + 1, c :: rest =>
    match c, rest with
    | '$', '\x7b' :: inner =>
      match reference? inner with
      | some ((name, _), more) => name :: references fuel more
      | none => references fuel rest
    | _, _ => references fuel rest

/-- The variables that what a line comes to depends on: the one it gives, and those that its text
refers to. -/
def Binding.consulted (b : Binding) : List String :=
  b.name :: (b.text.map fun s => references s.length s.toList).getD []

/-- The variables that what reading a file comes to depends on. -/
def consulted (f : File) : List String :=
  disablingVariable ::
    match f.characters with
    | .ok cs => (bindings cs).flatMap Binding.consulted
    | .error _ => []

/-- Two processes have the same texts for some variables. -/
def SameOn (names : List String) (env env' : Environment) : Prop :=
  ∀ name ∈ names, Entries.get? env name = Entries.get? env' name

instance (names : List String) (env env' : Environment) : Decidable (SameOn names env env') :=
  inferInstanceAs (Decidable (∀ name ∈ names, Entries.get? env name = Entries.get? env' name))

namespace SameOn

variable {names : List String}

theorem has (h : SameOn names env env') (hname : name ∈ names) :
    Entries.has env name = Entries.has env' name := by
  rw [Value.has_eq_isSome, Value.has_eq_isSome, h name hname]

theorem put (h : SameOn names env env') (name text : String) :
    SameOn names (Entries.put env name text) (Entries.put env' name text) := by
  intro other hother
  rw [Entries.get?_put, Entries.get?_put, h other hother]

theorem mono {more : List String} (h : SameOn more env env') (hsub : names ⊆ more) :
    SameOn names env env' :=
  fun name hname => h name (hsub hname)

end SameOn

theorem set_congr (env env' : Environment) (name text : String) :
    (env.set name text).map (fun _ => ()) = (env'.set name text).map fun _ => () := by
  unfold set
  split
  · rfl
  · split <;> rfl

/-- A text comes to the same wherever its references mean the same. -/
theorem expandUpTo_congr {m m' : String → Option String → String} :
    ∀ (fuel : Nat) (cs : List Char), (∀ name ∈ references fuel cs, m name = m' name) →
      expandUpTo m fuel cs = expandUpTo m' fuel cs
  | 0, _, _ => rfl
  | _ + 1, [], _ => rfl
  | fuel + 1, c :: rest, h => by
      unfold expandUpTo
      unfold references at h
      split
      · split
        · rename_i inner _ name other more heq
          simp only [heq] at h
          rw [h name (by simp),
            expandUpTo_congr fuel more fun n hn => h n (List.mem_cons_of_mem _ hn)]
        · rename_i inner _ heq
          simp only [heq] at h
          rw [expandUpTo_congr fuel _ h]
      · rename_i hno
        rw [expandUpTo_congr fuel rest]
        intro name hname
        refine h name ?_
        split
        · rename_i inner
          exact absurd rfl (hno inner rfl)
        · exact hname

theorem expand_congr {m m' : String → Option String → String} {s : String}
    (h : ∀ name ∈ references s.length s.toList, m name = m' name) : expand m s = expand m' s := by
  unfold expand
  rw [expandUpTo_congr _ _ h]

theorem meaning_congr {earlier : List (String × Option String)}
    (h : Entries.get? env name = Entries.get? env' name) :
    meaning env earlier name = meaning env' earlier name := by
  funext other
  unfold meaning
  rw [h]

theorem mem_consulted {b : Binding} {s : String} (hb : b.text = some s)
    (hname : name ∈ references s.length s.toList) : name ∈ b.consulted := by
  unfold Binding.consulted
  rw [hb]
  exact List.mem_cons_of_mem _ hname

/-- What a line comes to depends on the variables that it consults. -/
theorem text_congr {b : Binding} (h : SameOn b.consulted env env')
    (earlier : List (String × Option String)) :
    b.text.map (expand (meaning env earlier)) = b.text.map (expand (meaning env' earlier)) := by
  cases hb : b.text with
  | none => rfl
  | some s =>
      rw [Option.map_some, Option.map_some]
      refine congrArg some (expand_congr fun name hname => meaning_congr ?_)
      exact h name (mem_consulted hb hname)

theorem resolved_congr {bs : List Binding}
    (h : SameOn (bs.flatMap Binding.consulted) env env') : resolved env bs = resolved env' bs := by
  unfold resolved
  refine List.foldl_ext _ _ _ fun earlier b hb => ?_
  have hsame : SameOn b.consulted env env' :=
    h.mono fun name hname => List.mem_flatMap.mpr ⟨b, hb, hname⟩
  rw [text_congr hsame]

theorem fill_congr {names : List String} {pairs : List (String × Option String)}
    (h : SameOn names env env') (hnames : ∀ e ∈ pairs, e.1 ∈ names) :
    (fill pairs env).2 = (fill pairs env').2 ∧
      SameOn names (fill pairs env).1 (fill pairs env').1 := by
  induction pairs generalizing env env' with
  | nil => exact ⟨rfl, h⟩
  | cons e rest ih =>
      have hhas := h.has (hnames e (by simp))
      have hrest : ∀ d ∈ rest, d.1 ∈ names := fun d hd => hnames d (by simp [hd])
      rcases fill_cons_cases e rest env with ⟨hfill, hkept⟩ | ⟨text, htext, hunset, hset⟩
      · rw [hfill, fill_cons_kept fun hsome => hhas ▸ hkept hsome]
        exact ih h hrest
      · obtain ⟨name, _⟩ := e
        obtain rfl := htext
        have hunset' : Entries.has env' name = false := hhas ▸ hunset
        -- the same text can be set in both processes or in neither
        have hsame := set_congr env env' name text
        rcases hset with ⟨hset, hfill⟩ | ⟨f, hset, hfill⟩
        · rw [hset] at hsame
          cases hset' : env'.set name text with
          | error f => simp [hset', Except.map] at hsame
          | ok env'' =>
              rw [hfill, fill_cons_set hunset' hset', set_ok hset']
              exact ih (h.put name text) hrest
        · rw [hset] at hsame
          cases hset' : env'.set name text with
          | error f' =>
              rw [hset'] at hsame
              cases hsame
              rw [hfill, fill_cons_fault hunset' hset']
              exact ⟨rfl, h⟩
          | ok env'' => simp [hset', Except.map] at hsame

/-- **Reading comes to the same** where the variables that it depends on have the same texts, and
they still have when the file is read. -/
theorem load_congr {names : List String} {f : File} (h : SameOn names env env')
    (hconsulted : consulted f ⊆ names) :
    (load env f).2 = (load env' f).2 ∧ SameOn names (load env f).1 (load env' f).1 := by
  have hdisabled : isDisabled env = isDisabled env' := by
    unfold isDisabled
    rw [h disablingVariable (hconsulted (by simp [consulted]))]
  unfold load
  rw [hdisabled]
  split
  · exact ⟨rfl, h⟩
  · split
    · rename_i cs hcs
      have hsub : (bindings cs).flatMap Binding.consulted ⊆ names := by
        intro name hname
        exact hconsulted (by simp [consulted, hcs, hname])
      rw [resolved_congr (h.mono hsub)]
      refine fill_congr h fun e he => hsub ?_
      obtain ⟨b, hb, hname⟩ := List.mem_map.mp (resolved_names he)
      exact List.mem_flatMap.mpr ⟨b, hb, by simp [Binding.consulted, hname]⟩
    · exact ⟨rfl, h⟩

end Environment

end Parley
