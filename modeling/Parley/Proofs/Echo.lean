/-
The model's own turn, said back to it.

The service holds nothing of a conversation, so each request says again what the
model said before.  A plain block is one that says its text or its call and
nothing else; dictionaries are equal whatever the order of their entries, so its
keys may stand in any order.  Plain blocks come back as they were: reading keeps
every text, identifier, name and input whole, and writing has a place for each.
Blocks that say more than that come back as the plain blocks of what they say.
-/
import Parley.Proofs.Reply

namespace Parley

namespace Value

variable {α : Type}

/-- The same data, but for the order in which the entries of dictionaries stand. -/
inductive Alike : Value α → Value α → Prop where
  | refl (v : Value α) : Alike v v
  | order {es fs : List (String × Value α)} (h : es.Perm fs) : Alike (.obj es) (.obj fs)
  | entry {v w : Value α} (es : List (String × Value α)) (key : String)
      (fs : List (String × Value α)) (h : Alike v w) :
      Alike (.obj (es ++ (key, v) :: fs)) (.obj (es ++ (key, w) :: fs))
  | trans {u v w : Value α} (huv : Alike u v) (hvw : Alike v w) : Alike u w

end Value

/-! ### Plain blocks -/

namespace Spoken

/-- A block that says a text or a call and nothing else. -/
inductive Plain : Spoken → Document → Prop where
  | text (s : String) : Plain (.text s) (.obj [("text", .str s)])
  | call {use : Properties} (id name : String) (input : Properties)
      (h : use.Perm [("toolUseId", .str id), ("name", .str name), ("input", .obj input)]) :
      Plain (.call id name input) (.obj [("toolUse", .obj use)])

/-- What a plain block says is read from it. -/
theorem Plain.isBlock {x : Spoken} {b : Document} (h : x.Plain b) : x.IsBlock b := by
  cases h with
  | text s => rfl
  | call id name input h =>
      have hkeys : (([("toolUseId", .str id), ("name", .str name), ("input", .obj input)] :
          Properties).map Prod.fst).Nodup := by simp
      refine ⟨rfl, _, rfl, ?_, ?_, ?_⟩
      · exact Entries.get?_perm h hkeys "toolUseId"
      · exact Entries.get?_perm h hkeys "name"
      · exact Entries.get?_perm h hkeys "input"

/-- A plain block is the one that is written, but for the order of its keys. -/
theorem Plain.alike {x : Spoken} {b : Document} (h : x.Plain b) : b.Alike x.block := by
  cases h with
  | text s => exact .refl _
  | call id name input h => exact .entry [] "toolUse" [] (.order h)

/-- **Blocks come back as the plain blocks of what they say**, whatever else they held. -/
theorem written_isBlock {xs : List Spoken} {blocks : List Document}
    (h : List.Forall₂ IsBlock xs blocks) :
    (Wire.contents (.list blocks) >>= Block.ofContents) = .ok (xs.map block) := by
  obtain ⟨cs, hread, hbodies⟩ := readBlocks_isBlock h .null
  have hcontents : Wire.contents (.list blocks) = .ok cs := hread
  rw [hcontents, Outcome.ok_bind, Block.ofContents_spoken hbodies]

end Spoken

namespace Wire

/-- **A turn is echoed**: plain blocks that are read and written again are the same blocks, in
their order, and to the letter where their keys stand in the service's own order. -/
theorem echoes {blocks : List Document} (h : ∀ b ∈ blocks, ∃ x : Spoken, x.Plain b) :
    ∃ written, (contents (.list blocks) >>= Block.ofContents) = .ok written ∧
      List.Forall₂ Value.Alike blocks written ∧
      ((∀ b ∈ blocks, ∃ x : Spoken, x.block = b) → written = blocks) := by
  obtain ⟨xs, hxs⟩ := exists_forall₂ h
  have hwritten := Spoken.written_isBlock (hxs.imp fun _ _ hx => hx.isBlock)
  refine ⟨xs.map Spoken.block, hwritten, ?_, ?_⟩
  · rw [List.forall₂_map_right_iff]
    exact (hxs.imp fun _ _ hx => hx.alike).flip
  · intro hexact
    obtain ⟨ys, hys⟩ := exists_forall₂ hexact
    have hblocks : ys.map Spoken.block = blocks := by
      rwa [← List.forall₂_eq_eq_eq, List.forall₂_map_left_iff]
    -- both lists are what is written of the same blocks
    have hsame := Spoken.written_isBlock (hys.imp fun y _ hy => hy ▸ y.isBlock_block)
    rw [hwritten, hblocks] at hsame
    exact Except.ok.inj hsame

/-- A turn whose call names its keys in an order that is not the service's own. -/
def turn : List Document :=
  [.obj [("text", .str "Let me add.")],
    .obj [("toolUse", .obj [("name", .str "add"), ("input", .obj [("at", .obj [("x", .list
      [.int 1, .null])])]), ("toolUseId", .str "t1")])]]

theorem turn_echoes :
    (∀ b ∈ turn, ∃ x : Spoken, x.Plain b) ∧
      ∃ written, (contents (.list turn) >>= Block.ofContents) = .ok written ∧
        List.Forall₂ Value.Alike turn written := by
  have hplain : ∀ b ∈ turn, ∃ x : Spoken, x.Plain b := by
    intro b hb
    rcases List.mem_pair.mp hb with rfl | rfl
    · exact ⟨_, .text "Let me add."⟩
    · refine ⟨_, .call "t1" "add" [("at", .obj [("x", .list [.int 1, .null])])] ?_⟩
      exact List.perm_append_singleton _ [_, _]
  obtain ⟨written, hwritten, halike, -⟩ := echoes hplain
  exact ⟨hplain, written, hwritten, halike⟩

end Wire

end Parley
