/-
Computations that may fail, taken apart.

A computation that gives a value has got through all its steps.  Each lemma here
says what one way of putting steps together leaves behind when it succeeds, so
that a proof about a long computation names its steps and never opens them.
-/
import Mathlib.Data.List.Forall2
import Parley.Fault

namespace Parley

/-- Lists with the same images are related item by item. -/
theorem forall₂_of_map_eq {α β γ : Type} {f : α → γ} {g : β → γ} {as : List α} {bs : List β}
    (h : as.map f = bs.map g) : List.Forall₂ (fun a b => f a = g b) as bs := by
  have hall : List.Forall₂ (· = ·) (as.map f) (bs.map g) := by rw [List.forall₂_eq_eq_eq, h]
  rwa [List.forall₂_map_left_iff, List.forall₂_map_right_iff] at hall

/-- Where every item stands for something, the whole list does, item by item. -/
theorem exists_forall₂ {α β : Type} {R : α → β → Prop} {bs : List β} (h : ∀ b ∈ bs, ∃ a, R a b) :
    ∃ as, List.Forall₂ R as bs := by
  induction bs with
  | nil => exact ⟨[], .nil⟩
  | cons b rest ih =>
      obtain ⟨a, ha⟩ := h b (by simp)
      obtain ⟨as, has⟩ := ih fun c hc => h c (by simp [hc])
      exact ⟨a :: as, .cons ha has⟩

/-- Lists that are related item by item to a list in between are related to each other. -/
theorem forall₂_comp {α β γ : Type} {R : α → β → Prop} {S : β → γ → Prop} {T : α → γ → Prop}
    {as : List α} {bs : List β} {cs : List γ} (h : List.Forall₂ R as bs)
    (h' : List.Forall₂ S bs cs) (hcomp : ∀ a b c, R a b → S b c → T a c) :
    List.Forall₂ T as cs := by
  induction h generalizing cs with
  | nil =>
      cases h'
      exact .nil
  | cons hab _ ih =>
      cases h' with
      | cons hbc hrest => exact .cons (hcomp _ _ _ hab hbc) (ih hrest)

/-- What an item of a list is related to is an item of the other list. -/
theorem exists_mem_of_forall₂ {α β : Type} {R : α → β → Prop} {as : List α} {bs : List β}
    (h : List.Forall₂ R as bs) {a : α} (ha : a ∈ as) : ∃ b ∈ bs, R a b := by
  induction h with
  | nil => simp at ha
  | @cons x b _ _ hx _ ih =>
      rcases List.mem_cons.mp ha with rfl | ha
      · exact ⟨b, by simp, hx⟩
      · obtain ⟨y, hy, hrel⟩ := ih ha
        exact ⟨y, by simp [hy], hrel⟩

/-- The stage at which this library gave up; a fault of another making has none. -/
def Fault.stage? : Fault → Option Stage
  | .raised stage _ _ => some stage
  | _ => none

namespace Outcome

variable {ε α β : Type}

@[simp] theorem ok_bind (a : α) (f : α → Except ε β) : (Except.ok a >>= f) = f a := rfl

@[simp] theorem error_bind (e : ε) (f : α → Except ε β) :
    ((Except.error e : Except ε α) >>= f) = .error e := rfl

@[simp] theorem pure_eq (a : α) : (pure a : Except ε α) = .ok a := rfl

@[simp] theorem mapError_ok {ε' : Type} (f : ε → ε') (a : α) :
    (Except.ok a : Except ε α).mapError f = .ok a := rfl

theorem bind_ok {x : Except ε α} {f : α → Except ε β} {b : β} :
    (x >>= f) = .ok b ↔ ∃ a, x = .ok a ∧ f a = .ok b := by
  cases x <;> simp

theorem bind_error {x : Except ε α} {f : α → Except ε β} {e : ε} :
    (x >>= f) = .error e ↔ x = .error e ∨ ∃ a, x = .ok a ∧ f a = .error e := by
  cases x <;> simp

theorem map_ok {x : Except ε α} {f : α → β} {b : β} :
    x.map f = .ok b ↔ ∃ a, x = .ok a ∧ f a = b := by
  cases x <;> simp [Except.map]

theorem map_error {x : Except ε α} {f : α → β} {e : ε} : x.map f = .error e ↔ x = .error e := by
  cases x <;> simp [Except.map]

theorem toOption_eq_some {x : Except ε α} {a : α} : x.toOption = some a ↔ x = .ok a := by
  cases x <;> simp [Except.toOption]

theorem mapM_cons (f : α → Except ε β) (a : α) (rest : List α) :
    (a :: rest).mapM f = f a >>= fun b => rest.mapM f >>= fun bs => .ok (b :: bs) := by
  rw [List.mapM_cons]
  rfl

/-- Every item gives a value exactly when the whole list does, item by item. -/
theorem mapM_ok {f : α → Except ε β} {as : List α} {bs : List β} :
    as.mapM f = .ok bs ↔ List.Forall₂ (fun a b => f a = .ok b) as bs := by
  induction as generalizing bs with
  | nil =>
      rw [List.mapM_nil, List.forall₂_nil_left_iff]
      exact ⟨fun h => (Except.ok.inj h).symm, fun h => congrArg _ h.symm⟩
  | cons a rest ih =>
      rw [mapM_cons, List.forall₂_cons_left_iff]
      constructor
      · intro h
        obtain ⟨b, hb, h⟩ := bind_ok.mp h
        obtain ⟨more, hmore, h⟩ := bind_ok.mp h
        exact ⟨b, more, hb, ih.mp hmore, (Except.ok.inj h).symm⟩
      · rintro ⟨b, more, hb, hmore, rfl⟩
        rw [hb, ok_bind, ih.mpr hmore, ok_bind]

theorem mapM_append (f : α → Except ε β) (as bs : List α) :
    (as ++ bs).mapM f = as.mapM f >>= fun xs => bs.mapM f >>= fun ys => .ok (xs ++ ys) := by
  rw [List.mapM_append]
  rfl

/-- A list fails with the failure of one of its items. -/
theorem mapM_error {f : α → Except ε β} {as : List α} {e : ε} (h : as.mapM f = .error e) :
    ∃ a ∈ as, f a = .error e := by
  induction as with
  | nil => cases h
  | cons a rest ih =>
      rw [mapM_cons] at h
      rcases bind_error.mp h with ha | ⟨b, -, h⟩
      · exact ⟨a, by simp, ha⟩
      · rcases bind_error.mp h with hrest | ⟨bs, -, h⟩
        · obtain ⟨x, hx, hfx⟩ := ih hrest
          exact ⟨x, by simp [hx], hfx⟩
        · cases h

/-- A list in which some items fail, all with the same failure, fails with it. -/
theorem mapM_eq_error {f : α → Except ε β} {as : List α} {e : ε}
    (hall : ∀ a ∈ as, f a = .error e ∨ ∃ b, f a = .ok b) (hsome : ∃ a ∈ as, f a = .error e) :
    as.mapM f = .error e := by
  cases h : as.mapM f with
  | ok bs =>
      obtain ⟨a, ha, herror⟩ := hsome
      obtain ⟨b, -, hb⟩ := exists_mem_of_forall₂ (mapM_ok.mp h) ha
      rw [herror] at hb
      cases hb
  | error e' =>
      obtain ⟨a, ha, herror⟩ := mapM_error h
      rcases hall a ha with h' | ⟨b, hb⟩
      · rw [Except.error.inj (herror.symm.trans h')]
      · rw [hb] at herror
        cases herror

end Outcome

namespace Checked

variable {α β : Type}

/-- A function and its argument that are checked side by side both pass, or the whole does not. -/
theorem ap_ok {f : Checked (α → β)} {a : Checked α} {b : β} :
    ap f a = .ok b ↔ ∃ g v, f = .ok g ∧ a = .ok v ∧ g v = b := by
  cases f <;> cases a <;> simp [ap]

theorem under_ok {s : Step} {a : Checked α} {v : α} : under s a = .ok v ↔ a = .ok v := by
  cases a <;> simp [under]

theorem named_ok {name : String} {a : Checked α} {v : α} : named name a = .ok v ↔ a = .ok v :=
  under_ok

theorem orInvalid_ok {title : String} {a : Checked α} {v : α} :
    a.orInvalid title = .ok v ↔ a = .ok v := by
  cases a <;> simp [orInvalid]

theorem orInvalid_error {title : String} {a : Checked α} {f : Fault}
    (h : a.orInvalid title = .error f) : ∃ issues, f = .invalid title issues := by
  cases a with
  | ok v => cases h
  | error issues => exact ⟨issues, (Except.error.inj h).symm⟩

/-- Every item passes its check exactly when the whole list does, item by item. -/
theorem items_ok {check : α → Checked β} {i : Nat} {as : List α} {bs : List β} :
    items check i as = .ok bs ↔ List.Forall₂ (fun a b => check a = .ok b) as bs := by
  induction as generalizing i bs with
  | nil =>
      rw [items, List.forall₂_nil_left_iff]
      exact ⟨fun h => (Except.ok.inj h).symm, fun h => congrArg _ h.symm⟩
  | cons a rest ih =>
      rw [items, List.forall₂_cons_left_iff, ap_ok]
      constructor
      · rintro ⟨g, more, hg, hmore, rfl⟩
        obtain ⟨b, hb, rfl⟩ := Outcome.map_ok.mp hg
        exact ⟨b, more, under_ok.mp hb, ih.mp hmore, rfl⟩
      · rintro ⟨b, more, hb, hmore, rfl⟩
        exact ⟨_, more, Outcome.map_ok.mpr ⟨b, under_ok.mpr hb, rfl⟩, ih.mpr hmore, rfl⟩

end Checked

end Parley
