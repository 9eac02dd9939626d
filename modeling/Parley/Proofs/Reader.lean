/-
What is read is shorter than the text.

A reader hands back the rest of the text, and the rest is no longer than what it
was given.  A string loses its quotes on the way, and an escape is longer than the
character that it stands for; so a string that is read, by itself or as an entry of
an object, is shorter than the text that spells it.  No text spells itself.
-/
import Mathlib.Data.List.Basic
import Parley.Json.Reader
import Parley.Proofs.Outcome
import Parley.Proofs.Value

namespace Parley.Json

variable {α : Type}

/-! ### Strings -/

theorem unit?_length {cs rest : List Char} {n : Nat} (h : unit? cs = some (n, rest)) :
    rest.length ≤ cs.length := by
  unfold unit? at h
  split at h
  · simp only [Option.bind_eq_bind, Option.bind_eq_some_iff, Option.pure_def,
      Option.some.injEq, Prod.mk.injEq] at h
    obtain ⟨-, -, -, -, -, -, -, -, -, rfl⟩ := h
    simp only [List.length_cons]
    omega
  · cases h

theorem lowUnit?_length {cs rest : List Char} {n : Nat} (h : lowUnit? cs = some (n, rest)) :
    rest.length ≤ cs.length := by
  unfold lowUnit? at h
  split at h
  · have hrest := unit?_length (Option.eq_some_of_filter_eq_some h)
    simp only [List.length_cons]
    omega
  · cases h

/-- A string and what is left after it are shorter than the text after the opening quote. -/
theorem stringBody_length {opening n : Nat} {cs s after : List Char}
    (h : stringBody opening n cs = .ok (s, after)) : s.length + after.length < cs.length := by
  induction n generalizing cs s after with
  | zero => cases h
  | succ n ih =>
      -- Whatever stands for the next character, the string goes on with a shorter text.
      have hgo {x : Char} {more : List Char} (hmore : more.length < cs.length)
          (h : (stringBody opening n more >>= fun p => Except.ok (x :: p.1, p.2)) =
            .ok (s, after)) : s.length + after.length < cs.length := by
        obtain ⟨⟨t, rest⟩, hread, heq⟩ := Outcome.bind_ok.mp h
        obtain ⟨rfl, rfl⟩ := Prod.mk.inj (Except.ok.inj heq)
        have hlt := ih hread
        simp only [List.length_cons]
        omega
      cases cs with
      | nil => cases h
      | cons c rest =>
          unfold stringBody at h
          dsimp only at h
          split at h
          · obtain ⟨rfl, rfl⟩ := Prod.mk.inj (Except.ok.inj h)
            simp
          · split at h
            · split at h
              · cases h
              · rename_i digits
                split at h
                · cases h
                · split at h
                  · cases h
                  · rename_i u more hu
                    have hmore := unit?_length hu
                    have hshort : more.length < (c :: 'u' :: digits).length := by
                      simp only [List.length_cons]
                      omega
                    split at h
                    · split at h
                      · rename_i low later hlow
                        have hlater := lowUnit?_length hlow
                        split at h
                        · exact hgo (Nat.lt_of_le_of_lt hlater hshort) h
                        · exact hgo hshort h
                      · split at h
                        · cases h
                        · exact hgo hshort h
                    · split at h <;> exact hgo hshort h
              · rename_i e more _
                split at h
                · refine hgo ?_ h
                  simp only [List.length_cons]
                  omega
                · cases h
            · split at h
              · cases h
              · exact hgo (by simp) h

theorem stringAfterQuote_length {rest after : List Char} {s : String}
    (h : stringAfterQuote rest = .ok (s, after)) :
    s.length + after.length < rest.length := by
  obtain ⟨⟨cs, more⟩, hread, heq⟩ := Outcome.bind_ok.mp h
  obtain ⟨rfl, rfl⟩ := Prod.mk.inj (Except.ok.inj heq)
  simpa using stringBody_length hread

/-! ### Numbers and words -/

theorem dropWhile_length (p : Char → Bool) (cs : List Char) :
    (cs.dropWhile p).length ≤ cs.length :=
  (List.dropWhile_sublist p).length_le

theorem skipSpace_length (cs : List Char) : (skipSpace cs).length ≤ cs.length :=
  dropWhile_length isSpace cs

theorem wholePart_length {cs ds rest : List Char} (h : wholePart cs = some (ds, rest)) :
    rest.length ≤ cs.length := by
  unfold wholePart at h
  split at h
  · obtain ⟨-, rfl⟩ := Prod.mk.inj (Option.some.inj h)
    simp
  · split at h
    · obtain ⟨-, rfl⟩ := Prod.mk.inj (Option.some.inj h)
      exact dropWhile_length _ _
    · cases h
  · cases h

theorem fractionPart_length (cs : List Char) :
    (((fractionPart cs).map Prod.snd).getD cs).length ≤ cs.length := by
  unfold fractionPart
  split
  · dsimp only
    split
    · exact Nat.le_refl _
    · exact Nat.le_trans (dropWhile_length _ _) (by simp)
  · exact Nat.le_refl _

theorem takeSign_length (cs : List Char) : (Number.takeSign cs).2.length ≤ cs.length := by
  unfold Number.takeSign
  split <;> simp

theorem exponentPart_length (cs : List Char) :
    (((exponentPart cs).map Prod.snd).getD cs).length ≤ cs.length := by
  unfold exponentPart
  split
  · split
    · dsimp only
      split
      · exact Nat.le_refl _
      · refine Nat.le_trans (dropWhile_length _ _) (Nat.le_trans (takeSign_length _) ?_)
        simp
    · exact Nat.le_refl _
  · exact Nat.le_refl _

end Parley.Json

namespace Parley

variable {α : Type}

/-- Whether a value is of a sort that JSON has. -/
def Value.isJson : Value α → Bool
  | .bytes _ | .tuple _ | .leaf _ => false
  | _ => true

/-- A value of a sort that JSON has, in which a string, by itself or under a key, is shorter than a
text of the given length. -/
structure Value.Fits (length : Nat) (v : Value α) : Prop where
  json : v.isJson = true
  string : ∀ s, v = .str s → s.length < length
  entry : ∀ entries, v = .obj entries → ∀ key s,
    Entries.get? entries key = some (.str s) → s.length < length

namespace Value.Fits

variable {n m : Nat} {v : Value α}

theorem mono (h : v.Fits n) (hnm : n ≤ m) : v.Fits m where
  json := h.json
  string := fun s hv => Nat.lt_of_lt_of_le (h.string s hv) hnm
  entry := fun entries hv key s hs => Nat.lt_of_lt_of_le (h.entry entries hv key s hs) hnm

/-- A value that is neither a string nor an object fits anywhere. -/
theorem of_other (hjson : v.isJson = true) (hstring : v.asString? = none)
    (hentries : v.asEntries? = none) : v.Fits n where
  json := hjson
  string := by
    rintro s rfl
    cases hstring
  entry := by
    rintro entries rfl
    cases hentries

end Value.Fits

namespace Json

theorem number_fits {cs after : List Char} {v : Value α} (h : number cs = .ok (v, after)) :
    v.Fits cs.length ∧ after.length ≤ cs.length := by
  unfold number at h
  dsimp only at h
  split at h
  · cases h
  · rename_i whole rest hwhole
    have hrest : rest.length ≤ cs.length := by
      refine Nat.le_trans (wholePart_length hwhole) ?_
      split <;> simp
    have hafter := Nat.le_trans (exponentPart_length _)
      (Nat.le_trans (fractionPart_length rest) hrest)
    split at h
    · split at h
      · cases h
      · obtain ⟨rfl, rfl⟩ := Prod.mk.inj (Except.ok.inj h)
        exact ⟨.of_other rfl rfl rfl, hafter⟩
    · obtain ⟨rfl, rfl⟩ := Prod.mk.inj (Except.ok.inj h)
      exact ⟨.of_other rfl rfl rfl, hafter⟩

theorem word?_fits {cs after : List Char} {v : Value α} (h : word? cs = some (v, after)) :
    v.Fits cs.length ∧ after.length ≤ cs.length := by
  obtain ⟨w, hw, heq⟩ := Option.map_eq_some_iff.mp h
  obtain ⟨rfl, rfl⟩ := Prod.mk.inj heq
  have hmem := List.mem_of_find?_eq_some hw
  refine ⟨?_, by simp⟩
  simp only [words, List.mem_cons, List.not_mem_nil, or_false] at hmem
  rcases hmem with rfl | rfl | rfl | rfl | rfl | rfl <;> exact .of_other rfl rfl rfl

/-! ### Values -/

/-- A count of parts with which a value that is read fits into its text, and the rest is no
longer. -/
def ReadsValues (α : Type) (n : Nat) : Prop :=
  ∀ levels cs (v : Value α) after, value levels n cs = .ok (v, after) →
    v.Fits cs.length ∧ after.length ≤ cs.length

/-- A count of parts with which what is left after the elements of an array is no longer. -/
def ReadsElements (α : Type) (n : Nat) : Prop :=
  ∀ levels cs (items : List (Value α)) after, elements levels n cs = .ok (items, after) →
    after.length ≤ cs.length

/-- A count of parts with which the members of an object fit into their text, and the rest is no
longer. -/
def ReadsMembers (α : Type) (n : Nat) : Prop :=
  ∀ levels cs (pairs : List (String × Value α)) after, members levels n cs = .ok (pairs, after) →
    (∀ p ∈ pairs, p.2.Fits cs.length) ∧ after.length ≤ cs.length

variable {n : Nat}

/-- A value is a string, an object, an array, or a word or number by itself. -/
theorem ReadsValues.succ (helements : ReadsElements α n) (hmembers : ReadsMembers α n) :
    ReadsValues α (n + 1) := by
  intro levels cs x after h
  unfold value at h
  split at h
  · rename_i rest _
    obtain ⟨⟨s, more⟩, hread, heq⟩ := Outcome.bind_ok.mp h
    obtain ⟨rfl, rfl⟩ := Prod.mk.inj (Except.ok.inj heq)
    have hlt := stringAfterQuote_length hread
    refine ⟨⟨rfl, ?_, by rintro _ ⟨⟩⟩, ?_⟩
    · rintro _ ⟨⟩
      simp only [List.length_cons]
      omega
    · simp only [List.length_cons]
      omega
  · cases h
  · cases h
  · rename_i rest levels
    have hskip := skipSpace_length rest
    split at h
    · rename_i more hrest
      obtain ⟨rfl, rfl⟩ := Prod.mk.inj (Except.ok.inj h)
      rw [hrest] at hskip
      refine ⟨⟨rfl, by rintro _ ⟨⟩, ?_⟩, ?_⟩
      · rintro _ ⟨⟩ key s hs
        cases hs
      · simp only [List.length_cons] at hskip ⊢
        omega
    · obtain ⟨⟨pairs, more⟩, hread, heq⟩ := Outcome.bind_ok.mp h
      obtain ⟨rfl, rfl⟩ := Prod.mk.inj (Except.ok.inj heq)
      obtain ⟨hpairs, hmore⟩ := hmembers _ _ _ _ hread
      refine ⟨⟨rfl, by rintro _ ⟨⟩, ?_⟩, ?_⟩
      · rintro _ ⟨⟩ key s hs
        have hlt := (hpairs _ (Entries.mem_of_get?_ofPairs hs)).string s rfl
        simp only [List.length_cons]
        omega
      · simp only [List.length_cons]
        omega
  · rename_i rest levels
    have hskip := skipSpace_length rest
    split at h
    · rename_i more hrest
      obtain ⟨rfl, rfl⟩ := Prod.mk.inj (Except.ok.inj h)
      rw [hrest] at hskip
      refine ⟨.of_other rfl rfl rfl, ?_⟩
      simp only [List.length_cons] at hskip ⊢
      omega
    · obtain ⟨⟨items, more⟩, hread, heq⟩ := Outcome.bind_ok.mp h
      obtain ⟨rfl, rfl⟩ := Prod.mk.inj (Except.ok.inj heq)
      have hmore := helements _ _ _ _ hread
      refine ⟨.of_other rfl rfl rfl, ?_⟩
      simp only [List.length_cons]
      omega
  · split at h
    · rename_i found hword
      obtain rfl := Except.ok.inj h
      exact word?_fits hword
    · exact number_fits h

theorem ReadsElements.succ (hvalue : ReadsValues α n) (helements : ReadsElements α n) :
    ReadsElements α (n + 1) := by
  intro levels cs x after h
  unfold elements at h
  obtain ⟨⟨v, more⟩, hread, h⟩ := Outcome.bind_ok.mp h
  dsimp only at h
  have hmore := (hvalue _ _ _ _ hread).2
  have hskip := skipSpace_length more
  split at h
  · rename_i rest hrest
    obtain ⟨-, rfl⟩ := Prod.mk.inj (Except.ok.inj h)
    rw [hrest, List.length_cons] at hskip
    omega
  · rename_i rest hrest
    obtain ⟨⟨items, later⟩, hread', heq⟩ := Outcome.bind_ok.mp h
    obtain ⟨-, rfl⟩ := Prod.mk.inj (Except.ok.inj heq)
    have hlater := helements _ _ _ _ hread'
    have hskip' := skipSpace_length rest
    rw [hrest, List.length_cons] at hskip
    dsimp only at hlater ⊢
    omega
  · cases h

theorem ReadsMembers.succ (hvalue : ReadsValues α n) (hmembers : ReadsMembers α n) :
    ReadsMembers α (n + 1) := by
  intro levels cs x after h
  unfold members at h
  split at h
  · rename_i rest
    obtain ⟨⟨key, more⟩, hread, h⟩ := Outcome.bind_ok.mp h
    dsimp only at h
    have hmore := stringAfterQuote_length hread
    have hskip := skipSpace_length more
    split at h
    · rename_i body hbody
      obtain ⟨⟨v, more'⟩, hread', h⟩ := Outcome.bind_ok.mp h
      dsimp only at h
      obtain ⟨hfits, hmore'⟩ := hvalue _ _ _ _ hread'
      have hskip' := skipSpace_length body
      have hskip'' := skipSpace_length more'
      rw [hbody, List.length_cons] at hskip
      have hshort : (skipSpace body).length ≤ ('"' :: rest).length := by
        rw [List.length_cons]
        omega
      split at h
      · rename_i last hlast
        obtain ⟨rfl, rfl⟩ := Prod.mk.inj (Except.ok.inj h)
        rw [hlast, List.length_cons] at hskip''
        refine ⟨fun p hp => ?_, ?_⟩
        · rw [List.mem_singleton.mp hp]
          exact hfits.mono hshort
        · omega
      · rename_i last hlast
        obtain ⟨⟨pairs, later⟩, hread'', heq⟩ := Outcome.bind_ok.mp h
        obtain ⟨rfl, rfl⟩ := Prod.mk.inj (Except.ok.inj heq)
        obtain ⟨hpairs, hlater⟩ := hmembers _ _ _ _ hread''
        have hskip3 := skipSpace_length last
        rw [hlast, List.length_cons] at hskip''
        refine ⟨fun p hp => ?_, ?_⟩
        · rcases List.mem_cons.mp hp with rfl | hp
          · exact hfits.mono hshort
          · refine (hpairs p hp).mono ?_
            omega
        · dsimp only at hlater ⊢
          omega
      · cases h
    · cases h
  · cases h

theorem reads_fit (α : Type) (n : Nat) :
    ReadsValues α n ∧ ReadsElements α n ∧ ReadsMembers α n := by
  induction n with
  | zero =>
      refine ⟨?_, ?_, ?_⟩ <;> intro levels cs x after h
      · simp [value, complain] at h
      · simp [elements, complain] at h
      · simp [members, complain] at h
  | succ n ih =>
      obtain ⟨hvalue, helements, hmembers⟩ := ih
      exact ⟨.succ helements hmembers, .succ hvalue helements, .succ hvalue hmembers⟩

/-- **A string that is read out of a text is shorter than the text**, and so is one that is read
under a key. -/
theorem parse_fits {s : String} {v : Value α} (h : parse s = .ok v) : v.Fits s.length := by
  unfold parse at h
  split at h
  · cases h
  · unfold parseChars at h
    split at h
    · cases h
    · rename_i found hread
      split at h
      · obtain rfl := Except.ok.inj h
        have hfits := ((reads_fit α _).1 _ _ _ _ hread).1
        rw [← String.length_toList]
        exact hfits.mono (skipSpace_length s.toList)
      · cases h

end Json

end Parley
