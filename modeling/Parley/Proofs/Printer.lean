/-
Data that has a JSON text.

Writing goes through data from front to back, and gives up at the first number that is too long, or
at the first thing that is no JSON where such things are refused.  So data has a text exactly when
nothing in it is refused, and a text that is written within the limit is the one that would be
written without it.
-/
import Parley.Access
import Parley.Wire.Text
import Parley.Proofs.Outcome

namespace Parley

/-! ### What writing refuses -/

namespace Json

variable {ε α : Type} {intText : Int → Except ε String} {bytesText : List UInt8 → Except ε String}
  {leafText : α → Except ε String} {e : ε}

mutual

/-- Data is refused only for a number, the bytes or a foreign leaf in it. -/
theorem write_error : ∀ {v : Value α}, write intText bytesText leafText v = .error e →
    (∃ n, intText n = .error e) ∨ (∃ b, bytesText b = .error e) ∨ ∃ a, leafText a = .error e
  | .int n, h => Or.inl ⟨n, h⟩
  | .bytes b, h => Or.inr (Or.inl ⟨b, h⟩)
  | .leaf a, h => Or.inr (Or.inr ⟨a, h⟩)
  | .list _, h => by
      rcases Outcome.bind_error.mp h with hitems | ⟨_, -, hdone⟩
      · exact writeItems_error hitems
      · cases hdone
  | .tuple _, h => by
      rcases Outcome.bind_error.mp h with hitems | ⟨_, -, hdone⟩
      · exact writeItems_error hitems
      · cases hdone
  | .obj _, h => by
      rcases Outcome.bind_error.mp h with hentries | ⟨_, -, hdone⟩
      · exact writeEntries_error hentries
      · cases hdone

theorem writeItems_error : ∀ {items : List (Value α)},
    writeItems intText bytesText leafText items = .error e →
      (∃ n, intText n = .error e) ∨ (∃ b, bytesText b = .error e) ∨ ∃ a, leafText a = .error e
  | _ :: _, h => by
      rcases Outcome.bind_error.mp h with hfirst | ⟨_, -, hrest⟩
      · exact write_error hfirst
      · rcases Outcome.bind_error.mp hrest with hmore | ⟨_, -, hdone⟩
        · exact writeItems_error hmore
        · cases hdone

theorem writeEntries_error : ∀ {entries : List (String × Value α)},
    writeEntries intText bytesText leafText entries = .error e →
      (∃ n, intText n = .error e) ∨ (∃ b, bytesText b = .error e) ∨ ∃ a, leafText a = .error e
  | (_, _) :: _, h => by
      rcases Outcome.bind_error.mp h with hfirst | ⟨_, -, hrest⟩
      · exact write_error hfirst
      · rcases Outcome.bind_error.mp hrest with hmore | ⟨_, -, hdone⟩
        · exact writeEntries_error hmore
        · cases hdone

end

/-! ### The limit on numbers -/

/-- What writing within the limit gives, for data that would have the text `s` without it. -/
def Limited {β : Type} (tooLong : Bool) (s : β) (written : Except Fault β) : Prop :=
  written = if tooLong then .error (.badValue Number.tooLong) else .ok s

/-- Two parts are written within the limit one after the other. -/
theorem Limited.both {β γ δ : Type} {x y : Bool} {s : β} {t : γ} {first : Except Fault β}
    {more : Except Fault γ} (hfirst : Limited x s first) (hmore : Limited y t more)
    (put : β → γ → δ) :
    Limited (x || y) (put s t) (first >>= fun a => more >>= fun b => .ok (put a b)) := by
  unfold Limited at hfirst hmore ⊢
  rw [hfirst, hmore]
  cases x <;> cases y <;> rfl

theorem Limited.map {β γ : Type} {x : Bool} {s : β} {written : Except Fault β}
    (h : Limited x s written) (f : β → γ) : Limited x (f s) (written >>= fun a => .ok (f a)) := by
  unfold Limited at h ⊢
  rw [h]
  cases x <;> rfl

variable (bytesShown : List UInt8 → String) (leafShown : Opaque → String)

mutual

/-- Data that is all JSON or shown as such is refused only for a number that is too long. -/
theorem write_limited : ∀ v : Document, ∃ s,
    (write (fun n => .ok (toString n)) (fun b => .ok (bytesShown b))
      (fun o => .ok (leafShown o)) v : Except Empty String) = .ok s ∧
    Limited v.holdsTooLong s
      (write wholeText (fun b => .ok (bytesShown b)) (fun o => .ok (leafShown o)) v)
  | .null => ⟨_, rfl, rfl⟩
  | .bool _ => ⟨_, rfl, rfl⟩
  | .int _ => ⟨_, rfl, rfl⟩
  | .float _ => ⟨_, rfl, rfl⟩
  | .str _ => ⟨_, rfl, rfl⟩
  | .bytes _ => ⟨_, rfl, rfl⟩
  | .leaf _ => ⟨_, rfl, rfl⟩
  | .list items => by
      obtain ⟨parts, hplain, hlimited⟩ := writeItems_limited items
      exact ⟨_, by rw [write, hplain]; rfl, hlimited.map _⟩
  | .tuple items => by
      obtain ⟨parts, hplain, hlimited⟩ := writeItems_limited items
      exact ⟨_, by rw [write, hplain]; rfl, hlimited.map _⟩
  | .obj entries => by
      obtain ⟨parts, hplain, hlimited⟩ := writeEntries_limited entries
      exact ⟨_, by rw [write, hplain]; rfl, hlimited.map _⟩

theorem writeItems_limited : ∀ items : List Document, ∃ parts,
    (writeItems (fun n => .ok (toString n)) (fun b => .ok (bytesShown b))
      (fun o => .ok (leafShown o)) items : Except Empty (List String)) = .ok parts ∧
    Limited (Value.anyTooLong items) parts
      (writeItems wholeText (fun b => .ok (bytesShown b)) (fun o => .ok (leafShown o)) items)
  | [] => ⟨_, rfl, rfl⟩
  | v :: rest => by
      obtain ⟨s, hs, hfirst⟩ := write_limited v
      obtain ⟨parts, hparts, hmore⟩ := writeItems_limited rest
      exact ⟨s :: parts, by rw [writeItems, hs, hparts]; rfl, hfirst.both hmore _⟩

theorem writeEntries_limited : ∀ entries : List (String × Document), ∃ parts,
    (writeEntries (fun n => .ok (toString n)) (fun b => .ok (bytesShown b))
      (fun o => .ok (leafShown o)) entries : Except Empty (List String)) = .ok parts ∧
    Limited (Value.anyEntryTooLong entries) parts
      (writeEntries wholeText (fun b => .ok (bytesShown b)) (fun o => .ok (leafShown o)) entries)
  | [] => ⟨_, rfl, rfl⟩
  | (k, v) :: rest => by
      obtain ⟨s, hs, hfirst⟩ := write_limited v
      obtain ⟨parts, hparts, hmore⟩ := writeEntries_limited rest
      exact ⟨(quote k ++ ": " ++ s) :: parts, by rw [writeEntries, hs, hparts]; rfl,
        hfirst.both hmore fun s parts => (quote k ++ ": " ++ s) :: parts⟩

end

end Json

/-- **Data has a JSON text exactly when no number in it is too long**, and then it is the text that
would be written without a limit. -/
theorem jsonOf_eq (v : Document) : jsonOf v = v.writable.map fun _ => jsonText v := by
  obtain ⟨s, hplain, hlimited⟩ := Json.write_limited
    (fun b => Json.quote (Literal.quoteBytes b)) (fun o => Json.quote o.text) v
  unfold jsonOf jsonText Value.writable
  rw [hlimited, hplain]
  cases v.holdsTooLong <;> rfl

end Parley
