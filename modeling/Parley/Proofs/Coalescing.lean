/-
What updates come to when they are put together.

Updates may come in any order and with any holes: without a role, without
contents, after the one that says why the reply ended.  Whatever they are, the
reply holds what they hold, in order and each in the role in which it was said,
and the only liberty that joining takes is to make one text of texts that stand
next to each other.  `Coalesced` is that liberty as a relation between contents
with their roles; it is kept by every content that is added, and everything that
can be said of texts and of other contents is read off it.
-/
import Parley.Proofs.Joining
import Parley.Proofs.Counts

namespace Parley

/-! ### Contents with their roles -/

/-- The contents of messages, in order, each with the role of its message. -/
def Message.attributed (ms : List Message) : List (Role × Content) :=
  ms.flatMap fun m => m.contents.map fun c => (m.role, c)

/-- What updates hold besides counts, in order, each with the role in which it is said: that of its
update, and without one the role before it. -/
def Update.attributed (before : Role) : List Update → List (Role × Content)
  | [] => []
  | u :: rest =>
    let role := u.role.getD before
    (u.contents.filter fun c => c.body.usage?.isNone).map (fun c => (role, c))
      ++ attributed role rest

/-- The counts that updates report, in order. -/
def Update.reported (updates : List Update) : List Usage :=
  updates.flatMap fun u => u.contents.filterMap fun c => c.body.usage?

/-- The text of updates is that of what they hold besides counts. -/
theorem Update.text_attributed (before : Role) (updates : List Update) :
    String.join (updates.map Update.text) =
      String.join ((attributed before updates).filterMap fun x => x.2.text?) := by
  induction updates generalizing before with
  | nil => rfl
  | cons u rest ih =>
      have hu : ((u.contents.filter fun c => c.body.usage?.isNone).map
          fun c => (u.role.getD before, c)).filterMap (fun x => x.2.text?) =
            u.contents.filterMap Content.text? := by
        rw [List.filterMap_map, List.filterMap_filter]
        congr
        funext c
        obtain ⟨body, _, _⟩ := c
        cases body <;> rfl
      rw [attributed, List.map_cons, String.join_cons, List.filterMap_append, hu,
        String.join_append, ← ih]
      rfl

theorem Update.reported_eq (updates : List Update) :
    reported updates =
      (updates.flatMap fun u => u.contents.map Content.body).filterMap Body.usage? := by
  unfold reported
  rw [List.filterMap_flatMap]
  congr
  funext u
  rw [List.filterMap_map]
  rfl

/-- How a reply ended, and the metadata of its end: both are those of the last update that says
why, and while none does, the metadata are the last there are. -/
def Update.ending (updates : List Update) : Option FinishReason × Given :=
  match (updates.filter fun u => u.finishReason.isSome).getLast? with
  | some u => (u.finishReason, u.metadata)
  | none =>
    (none, (((updates.filter fun u => !u.metadata.isNull).getLast?).map Update.metadata).getD .null)

theorem Update.ending_concat (updates : List Update) (u : Update) :
    ending (updates ++ [u]) =
      match u.finishReason with
      | some reason => (some reason, u.metadata)
      | none =>
        if (ending updates).1.isNone && !u.metadata.isNull then (none, u.metadata)
        else ending updates := by
  unfold ending
  rw [List.filter_append, List.filter_append]
  cases hu : u.finishReason with
  | some reason => simp [hu]
  | none =>
      have hnone : ([u].filter fun u => u.finishReason.isSome) = [] := by simp [hu]
      rw [hnone, List.append_nil]
      cases hlast : (updates.filter fun u => u.finishReason.isSome).getLast? with
      | some v =>
          have hv := (List.mem_filter.mp (List.mem_of_getLast? hlast)).2
          cases hreason : v.finishReason <;> simp_all
      | none => cases hnull : u.metadata.isNull <;> simp [hnull]

/-! ### All counts together -/

namespace Usage

/-- Counts that are all known. -/
def ofTokens (n : Int × Int × Int) : Usage := ⟨some n.1, some n.2.1, some n.2.2⟩

theorem add_eq_ofTokens (a b : Usage) : a + b = ofTokens (a.tokens + b.tokens) := rfl

theorem tokens_ofTokens (n : Int × Int × Int) : (ofTokens n).tokens = n := rfl

theorem foldl_gather_ofTokens (us : List Usage) (n : Int × Int × Int) :
    us.foldl gather (some (ofTokens n)) = some (ofTokens (n + (us.map tokens).sum)) := by
  induction us generalizing n with
  | nil => rw [List.map_nil, List.sum_nil, add_zero, List.foldl_nil]
  | cons u rest ih =>
      show rest.foldl gather (some (ofTokens n + u)) = _
      rw [add_eq_ofTokens, tokens_ofTokens, ih, List.map_cons, List.sum_cons, add_assoc]

/-- Counts put together: none at all, the only ones as they are, and of more the sums, in which an
unknown count is zero. -/
def all : List Usage → Option Usage
  | [] => none
  | [u] => some u
  | us => some (ofTokens (us.map tokens).sum)

theorem foldl_gather_eq_all (us : List Usage) : us.foldl gather none = all us := by
  match us with
  | [] => rfl
  | [u] => rfl
  | u :: v :: rest =>
      show rest.foldl gather (some (u + v)) = some (ofTokens ((u :: v :: rest).map tokens).sum)
      rw [add_eq_ofTokens, foldl_gather_ofTokens, List.map_cons, List.sum_cons, List.map_cons,
        List.sum_cons, add_assoc]

/-- What only one of several reports say is kept, and what none says is zero. -/
example : ([⟨some 1, none, none⟩, ⟨some 2, some 3, none⟩] : List Usage).foldl gather none =
    some ⟨some 3, some 3, some 0⟩ := by rfl

end Usage

/-! ### Texts that become one -/

/-- The second contents are the first, in order, where some texts that stood next to each other in
one role have become a single text. -/
inductive Coalesced : List (Role × Content) → List (Role × Content) → Prop where
  | nil : Coalesced [] []
  | keep (x : Role × Content) {xs ys : List (Role × Content)} (h : Coalesced xs ys) :
      Coalesced (x :: xs) (x :: ys)
  | texts (role : Role) {run : List Content} {xs ys : List (Role × Content)}
      (hlen : 2 ≤ run.length) (hrun : ∀ c ∈ run, c.text?.isSome) (h : Coalesced xs ys) :
      Coalesced (run.map (fun c => (role, c)) ++ xs) ((role, .ofText (Content.joined run)) :: ys)

namespace Coalesced

variable {xs ys : List (Role × Content)}

theorem eq_nil (h : Coalesced xs []) : xs = [] := by
  cases h
  rfl

/-- A content is kept behind the others. -/
theorem snoc (h : Coalesced xs ys) (x : Role × Content) : Coalesced (xs ++ [x]) (ys ++ [x]) := by
  induction h with
  | nil => exact .keep x .nil
  | keep y _ ih => exact .keep y ih
  | texts role hlen hrun _ ih =>
      rw [List.append_assoc]
      exact .texts role hlen hrun ih

/-- A text and those that it follows in one role are a run. -/
theorem run_concat (role : Role) {run : List Content} {c : Content} {t : String} (hne : run ≠ [])
    (hrun : ∀ d ∈ run, d.text?.isSome) (hc : c.text? = some t) :
    Coalesced ((run ++ [c]).map fun d => (role, d))
      [(role, .ofText (Content.joined run ++ t))] := by
  have hjoined : Content.joined (run ++ [c]) = Content.joined run ++ t := by
    simp [Content.joined, hc]
  have hlen : 2 ≤ (run ++ [c]).length := by
    have hpos := List.length_pos_of_ne_nil hne
    rw [List.length_append, List.length_singleton]
    omega
  have hall : ∀ d ∈ run ++ [c], d.text?.isSome := by
    intro d hd
    rcases List.mem_append.mp hd with hd | hd
    · exact hrun d hd
    · rw [List.mem_singleton.mp hd, hc, Option.isSome_some]
  have htexts := Coalesced.texts role hlen hall .nil
  rwa [hjoined, List.append_nil] at htexts

/-- A text joins the text of the same role that is the last so far. -/
theorem join {zs : List (Role × Content)} (h : Coalesced xs zs) {role : Role} {b c : Content}
    {s t : String} (hzs : zs = ys ++ [(role, b)]) (hb : b.text? = some s) (hc : c.text? = some t) :
    Coalesced (xs ++ [(role, c)]) (ys ++ [(role, .ofText (s ++ t))]) := by
  induction h generalizing ys with
  | nil => simp at hzs
  | @keep x xs zs h ih =>
      cases ys with
      | nil =>
          -- the last content so far is one that was kept: it and the new one are a run of two
          obtain ⟨rfl, rfl⟩ := List.cons.inj hzs
          obtain rfl := h.eq_nil
          have hone : Content.joined [b] = s := by simp [Content.joined, hb]
          have hpair := run_concat role (List.cons_ne_nil b []) (by simp [hb]) hc
          rwa [hone] at hpair
      | cons y rest =>
          obtain ⟨rfl, hrest⟩ := List.cons.inj hzs
          exact .keep x (ih hrest)
  | @texts r run xs zs hlen hrun h ih =>
      cases ys with
      | nil =>
          -- the last content so far is a run that goes on
          obtain ⟨hlast, rfl⟩ := List.cons.inj hzs
          obtain ⟨rfl, rfl⟩ := Prod.mk.inj hlast
          obtain rfl := h.eq_nil
          obtain rfl : Content.joined run = s := Option.some.inj hb
          have hne : run ≠ [] := by
            rintro rfl
            simp at hlen
          have hlonger := run_concat r hne hrun hc
          rwa [List.map_append, ← List.append_nil (run.map _)] at hlonger
      | cons y rest =>
          obtain ⟨rfl, hrest⟩ := List.cons.inj hzs
          rw [List.append_assoc]
          exact .texts r hlen hrun (ih hrest)

/-- The text is the same. -/
theorem text_eq (h : Coalesced xs ys) :
    String.join (ys.filterMap fun x => x.2.text?) =
      String.join (xs.filterMap fun x => x.2.text?) := by
  induction h with
  | nil => rfl
  | keep x _ ih =>
      cases hx : x.2.text? <;> simp [hx, ih]
  | @texts role run _ ys _ _ _ ih =>
      have htexts (run : List Content) :
          (run.map fun c => (role, c)).filterMap (fun x => x.2.text?) =
            run.filterMap Content.text? := by
        rw [List.filterMap_map]
        rfl
      rw [List.filterMap_append, htexts, String.join_append, ← ih]
      exact String.join_cons

/-- Contents that are not texts are the same, in order and in their roles. -/
theorem others_eq (h : Coalesced xs ys) :
    (ys.filter fun x => x.2.text?.isNone) = xs.filter fun x => x.2.text?.isNone := by
  induction h with
  | nil => rfl
  | keep x _ ih => rw [List.filter_cons, List.filter_cons, ih]
  | @texts role run _ _ _ hrun _ ih =>
      have hnone : ((run.map fun c => (role, c)).filter fun x => x.2.text?.isNone) = [] := by
        rw [List.filter_eq_nil_iff]
        intro x hx
        obtain ⟨c, hc, rfl⟩ := List.mem_map.mp hx
        have hsome := hrun c hc
        cases hc' : c.text? <;> simp_all
      rw [List.filter_append, hnone, List.nil_append, ← ih]
      rfl

end Coalesced

/-! ### Messages without seams -/

/-- A message in which no text follows a text and no counts are reported. -/
structure Message.Seamless (m : Message) : Prop where
  texts : m.contents.IsChain fun c d => c.text? = none ∨ d.text? = none
  counts : ∀ c ∈ m.contents, c.body.usage? = none

namespace Response

/-- A content that is added behind others joins a text before it, or is the new last. -/
theorem appendContent_cases (cs : List Content) (c : Content) :
    (∃ before b s t, cs = before ++ [b] ∧ b.text? = some s ∧ c.text? = some t ∧
      appendContent cs c = before ++ [.ofText (s ++ t)]) ∨
    ((∀ b ∈ cs.getLast?, b.text? = none ∨ c.text? = none) ∧ appendContent cs c = cs ++ [c]) := by
  unfold appendContent
  rcases List.eq_nil_or_concat cs with rfl | ⟨before, b, rfl⟩
  · exact .inr ⟨by simp, rfl⟩
  · rw [List.concat_eq_append, List.getLast?_concat, List.dropLast_concat, Option.bind_some]
    cases hb : b.text? with
    | none => exact .inr ⟨by simpa using .inl hb, rfl⟩
    | some s =>
        cases hc : c.text? with
        | none => exact .inr ⟨by simp, rfl⟩
        | some t => exact .inl ⟨before, b, s, t, rfl, hb, rfl, rfl⟩

/-- A message without seams stays one when a content is added. -/
theorem seamless_append {m : Message} (h : m.Seamless) {c : Content} (hc : c.body.usage? = none) :
    ({ m with contents := appendContent m.contents c } : Message).Seamless := by
  obtain ⟨htexts, hcounts⟩ := h
  rcases appendContent_cases m.contents c with
    ⟨before, b, s, t, hm, hb, -, happend⟩ | ⟨hlast, happend⟩
  · rw [hm, List.isChain_append] at htexts
    rw [happend]
    constructor
    · refine List.isChain_append.mpr ⟨htexts.1, List.isChain_singleton _, ?_⟩
      intro x hx y _
      refine .inl ((htexts.2.2 x hx b rfl).resolve_right ?_)
      rw [hb]
      exact Option.some_ne_none s
    · intro d hd
      rcases List.mem_append.mp hd with hd | hd
      · exact hcounts d (by rw [hm]; exact List.mem_append_left _ hd)
      · rw [List.mem_singleton.mp hd]
        rfl
  · rw [happend]
    constructor
    · refine List.isChain_append.mpr ⟨htexts, List.isChain_singleton _, ?_⟩
      intro x hx y hy
      rw [← Option.some.inj hy]
      exact hlast x hx
    · intro d hd
      rcases List.mem_append.mp hd with hd | hd
      · exact hcounts d hd
      · rwa [List.mem_singleton.mp hd]

namespace Joined

/-- What has been put together so far holds the given contents, in messages without seams, no two
neighbours of which have the same role. -/
structure Tells (j : Joined) (xs : List (Role × Content)) : Prop where
  coalesced : Coalesced xs (Message.attributed j.reversed.reverse)
  roles : (j.reversed.map Message.role).IsChain (· ≠ ·)
  seamless : ∀ m ∈ j.reversed, m.Seamless

/-- The role of the message that is open. -/
def speaker (j : Joined) : Role := (j.reversed.head?.map Message.role).getD .assistant

theorem roleOf_eq (j : Joined) (u : Update) : j.roleOf u = u.role.getD j.speaker := by
  unfold roleOf speaker
  cases u.role with
  | some role => rfl
  | none => cases j.reversed <;> rfl

variable {j : Joined} {xs : List (Role × Content)} {m : Message} {earlier : List Message}

theorem speaker_cons (h : j.reversed = m :: earlier) : j.speaker = m.role := by
  unfold speaker
  rw [h]
  rfl

theorem addContent_usage {c : Content} {u : Usage} (h : c.body.usage? = some u) :
    (j.addContent c).reversed = j.reversed := by
  unfold addContent
  cases hc : c.body <;> simp_all [Body.usage?]

theorem addContent_open {c : Content} (h : c.body.usage? = none) (hj : j.reversed = m :: earlier) :
    (j.addContent c).reversed =
      { m with contents := appendContent m.contents c } :: earlier := by
  unfold addContent
  rw [hj]
  cases hc : c.body <;> simp_all [Body.usage?]

theorem attributed_reverse_cons (m : Message) (earlier : List Message) :
    Message.attributed (m :: earlier).reverse =
      Message.attributed earlier.reverse ++ m.contents.map fun c => (m.role, c) := by
  simp [Message.attributed]

/-- A content that is no count is told in the message that is open. -/
theorem Tells.addContent (h : j.Tells xs) (hj : j.reversed = m :: earlier) {c : Content}
    (hc : c.body.usage? = none) : (j.addContent c).Tells (xs ++ [(m.role, c)]) := by
  obtain ⟨hcoalesced, hroles, hseamless⟩ := h
  rw [hj] at hcoalesced hroles hseamless
  have hadded := addContent_open hc hj
  refine ⟨?_, ?_, ?_⟩
  · rw [attributed_reverse_cons] at hcoalesced
    rw [hadded, attributed_reverse_cons]
    rcases appendContent_cases m.contents c with
      ⟨before, b, s, t, hm, hb, ht, happend⟩ | ⟨-, happend⟩
    · rw [happend, List.map_append, ← List.append_assoc]
      refine hcoalesced.join (b := b) ?_ hb ht
      rw [hm, List.map_append, List.append_assoc]
      rfl
    · rw [happend, List.map_append, ← List.append_assoc]
      exact hcoalesced.snoc (m.role, c)
  · rwa [hadded]
  · rw [hadded]
    intro n hn
    rcases List.mem_cons.mp hn with rfl | hn
    · exact seamless_append (hseamless m (by simp)) hc
    · exact hseamless n (by simp [hn])

/-- The contents of an update are told in the message that is open. -/
theorem Tells.foldl_addContent (cs : List Content) (h : j.Tells xs) (hj : j.reversed ≠ []) :
    (cs.foldl Joined.addContent j).Tells (xs ++ (cs.filter fun c => c.body.usage?.isNone).map
      fun c => (j.speaker, c)) ∧
    (cs.foldl Joined.addContent j).speaker = j.speaker := by
  induction cs generalizing j xs with
  | nil => simpa using h
  | cons c rest ih =>
      obtain ⟨m, earlier, hm⟩ := List.exists_cons_of_ne_nil hj
      rw [List.foldl_cons]
      cases hc : c.body.usage? with
      | some u =>
          have hkept := addContent_usage (j := j) hc
          have hspeaker : (j.addContent c).speaker = j.speaker := by
            unfold speaker
            rw [hkept]
          have htells : (j.addContent c).Tells xs := by
            obtain ⟨hcoalesced, hroles, hseamless⟩ := h
            exact ⟨by rwa [hkept], by rwa [hkept], by rwa [hkept]⟩
          have hrest := ih htells (by rwa [hkept])
          rw [hspeaker] at hrest
          simpa [hc] using hrest
      | none =>
          have hadded := addContent_open hc hm
          have hrest := ih (h.addContent hm hc) (by rw [hadded]; exact List.cons_ne_nil _ _)
          rw [speaker_cons hadded] at hrest
          rw [speaker_cons hm]
          simpa [hc] using hrest

/-- A message is opened when another one speaks; nothing is told yet. -/
theorem Tells.open (h : j.Tells xs) (role : Role) (id : Option String) :
    (j.open role id).Tells xs ∧ (j.open role id).reversed ≠ [] ∧
      (j.open role id).speaker = role := by
  obtain ⟨hcoalesced, hroles, hseamless⟩ := h
  have hempty : ({ role, id } : Message).Seamless := ⟨.nil, by simp⟩
  unfold Joined.open
  cases hj : j.reversed with
  | nil =>
      rw [hj] at hcoalesced
      refine ⟨⟨hcoalesced, List.isChain_singleton _, ?_⟩, by simp, rfl⟩
      intro n hn
      rwa [List.mem_singleton.mp hn]
  | cons m earlier =>
      by_cases hm : m.role = role
      · dsimp only
        rw [if_pos hm, hj]
        exact ⟨⟨hcoalesced, hroles, hseamless⟩, by simp, (speaker_cons hj).trans hm⟩
      · dsimp only
        rw [if_neg hm]
        refine ⟨⟨?_, ?_, ?_⟩, by simp, rfl⟩
        · rw [attributed_reverse_cons, List.map_nil, List.append_nil, ← hj]
          exact hcoalesced
        · rw [List.map_cons, List.map_cons, List.isChain_cons_cons, ← List.map_cons, ← hj]
          exact ⟨fun heq => hm heq.symm, hroles⟩
        · intro n hn
          rcases List.mem_cons.mp hn with rfl | hn
          · exact hempty
          · exact hseamless n (by rwa [hj])

/-- **An update tells its contents, in its own role or in that of the message before.** -/
theorem Tells.add (h : j.Tells xs) (u : Update) :
    (j.add u).Tells (xs ++ (u.contents.filter fun c => c.body.usage?.isNone).map
      fun c => (u.role.getD j.speaker, c)) ∧ (j.add u).speaker = u.role.getD j.speaker := by
  obtain ⟨hopen, hne, hspeaker⟩ := h.open (j.roleOf u) u.messageId
  have hall := hopen.foldl_addContent u.contents hne
  rw [hspeaker] at hall
  rw [← roleOf_eq]
  exact ⟨⟨hall.1.coalesced, hall.1.roles, hall.1.seamless⟩, hall.2⟩

/-- **Updates tell all that they hold.** -/
theorem Tells.foldl_add (us : List Update) (h : j.Tells xs) :
    (us.foldl Joined.add j).Tells (xs ++ Update.attributed j.speaker us) := by
  induction us generalizing j xs with
  | nil => simpa [Update.attributed] using h
  | cons u rest ih =>
      obtain ⟨htells, hspeaker⟩ := h.add u
      have hrest := ih htells
      rwa [hspeaker, List.append_assoc] at hrest

/-- What an update says of how the reply ended, and of the rest, is kept by its contents. -/
theorem foldl_addContent_metadata (cs : List Content) (j : Joined) :
    (cs.foldl Joined.addContent j).metadata = j.metadata := by
  induction cs generalizing j with
  | nil => rfl
  | cons c rest ih =>
      rw [List.foldl_cons, ih]
      unfold Joined.addContent
      split
      · rfl
      · split <;> rfl

theorem open_metadata (j : Joined) (role : Role) (id : Option String) :
    (j.open role id).metadata = j.metadata := by
  unfold Joined.open
  split
  · split <;> rfl
  · rfl

/-- The metadata of an update count when it says why the reply ended, and before any does when there
are some. -/
theorem metadata_add (j : Joined) (u : Update) :
    (j.add u).metadata =
      if u.finishReason.isSome || j.finishReason.isNone && !u.metadata.isNull then u.metadata
      else j.metadata := by
  have hkept := (foldl_addContent_metadata u.contents (j.open (j.roleOf u) u.messageId)).trans
    (open_metadata j (j.roleOf u) u.messageId)
  have hreason := ((foldl_addContent_kept u.contents (j.open (j.roleOf u) u.messageId)).1).trans
    (open_kept j (j.roleOf u) u.messageId).1
  unfold add
  dsimp only
  rw [hkept, hreason]
  cases u.finishReason with
  | some reason => rfl
  | none =>
      dsimp only
      rw [Option.isSome_none, Bool.false_or]
      split <;> rfl

/-- **How the reply ended is what the updates say of it.** -/
theorem ending_foldl_add (us : List Update) :
    ((us.foldl Joined.add {}).finishReason, (us.foldl Joined.add {}).metadata) =
      Update.ending us := by
  induction us using List.reverseRecOn with
  | nil => rfl
  | append_singleton before u ih =>
      have hreason := congrArg Prod.fst ih
      have hmetadata := congrArg Prod.snd ih
      dsimp only at hreason hmetadata
      rw [List.foldl_append, List.foldl_cons, List.foldl_nil, finishReason_add, metadata_add,
        hreason, hmetadata, Update.ending_concat]
      cases u.finishReason with
      | some reason => rfl
      | none =>
          rw [Option.none_or, Option.isSome_none, Bool.false_or]
          by_cases h : ((Update.ending before).1.isNone && !u.metadata.isNull) = true
          · rw [if_pos h]
            rw [Bool.and_eq_true] at h
            dsimp only
            rw [if_pos (by rw [h.1, h.2]; rfl), Option.isNone_iff_eq_none.mp h.1]
          · dsimp only
            rw [if_neg h, if_neg h]

end Joined

/-! ### The whole reply -/

/-- How updates and the reply that they are put together to hang together. -/
structure Joins (updates : List Update) (r : Response) : Prop where
  /-- The text is all that the updates say. -/
  text : r.text = String.join (updates.map Update.text)
  /-- Contents keep their order and their roles, but for texts that become one. -/
  coalesced : Coalesced (Update.attributed .assistant updates) (Message.attributed r.messages)
  /-- Contents that are neither texts nor counts are those of the updates. -/
  others : ((Message.attributed r.messages).filter fun x => x.2.text?.isNone) =
    (Update.attributed .assistant updates).filter fun x => x.2.text?.isNone
  /-- Messages that follow each other have different roles. -/
  roles : (r.messages.map Message.role).IsChain (· ≠ ·)
  /-- No message holds two texts next to each other, or counts. -/
  seamless : ∀ m ∈ r.messages, m.Seamless
  /-- The counts are all that the updates report. -/
  usage : r.usage = Usage.all (Update.reported updates)
  /-- The reply ended as the updates say. -/
  ending : (r.finishReason, r.metadata) = Update.ending updates

theorem text_attributed (ms : List Message) :
    String.join (ms.map Message.text) =
      String.join ((Message.attributed ms).filterMap fun x => x.2.text?) := by
  induction ms with
  | nil => rfl
  | cons m rest ih =>
      have hm : (m.contents.map fun c => (m.role, c)).filterMap (fun x => x.2.text?) =
          m.contents.filterMap Content.text? := by
        rw [List.filterMap_map]
        rfl
      rw [List.map_cons, String.join_cons, ih]
      unfold Message.attributed
      rw [List.flatMap_cons, List.filterMap_append, hm, String.join_append]
      rfl

/-- **Updates make a reply that holds what they hold.** -/
theorem joins_ofUpdates (updates : List Update) : Joins updates (ofUpdates updates) := by
  have hempty : Joined.Tells {} [] := ⟨.nil, .nil, by simp⟩
  have htells := hempty.foldl_add updates
  rw [List.nil_append] at htells
  have hcoalesced : Coalesced (Update.attributed .assistant updates)
    (Message.attributed (ofUpdates updates).messages) := htells.coalesced
  refine ⟨?_, hcoalesced, hcoalesced.others_eq, ?_, ?_, ?_, Joined.ending_foldl_add updates⟩
  · rw [Update.text_attributed .assistant updates, ← hcoalesced.text_eq]
    exact text_attributed _
  · show (List.map Message.role (List.reverse _)).IsChain _
    rw [List.map_reverse, List.isChain_reverse]
    exact htells.roles.imp fun _ _ h => h.symm
  · intro m hm
    exact htells.seamless m (List.mem_reverse.mp hm)
  · rw [← Usage.foldl_gather_eq_all]
    exact (Joined.usage_foldl_add updates {}).trans (by rw [Update.reported_eq])

end Response

end Parley
