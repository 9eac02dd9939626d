/-
Putting the updates of a turn together.

All that joining does to the messages is to tell something on: to the message that
is open, if the same one speaks, and else in a new one.  `tell` is that step on
gists, and telling twice is telling once with both parts in a row, so only the
substance of all updates of a turn matters and not how it is spread over them.
-/
import Mathlib.Data.List.Chain
import Parley.Chat.Loop
import Parley.Proofs.Stream

namespace Parley

/-! ### Contents that join -/

namespace Body

/-- The token counts that are the substance of a content. -/
def usage? : Body → Option Usage
  | .usage u => some u
  | _ => none

/-- Add the substance of a content behind others.  A text joins a text before it, and counts are
kept elsewhere. -/
def join (bs : List Body) (b : Body) : List Body :=
  match b, bs.getLast? with
  | .usage _, _ => bs
  | .text t, some (.text s) => bs.dropLast ++ [.text (s ++ t)]
  | b, _ => bs ++ [b]

theorem join_text (bs : List Body) (s t : String) :
    join (bs ++ [.text s]) (.text t) = bs ++ [.text (s ++ t)] := by
  simp [join]

/-- A text that is told in pieces joins the text before it. -/
theorem foldl_join_texts (bs : List Body) (s : String) (parts : List String) :
    (parts.map Body.text).foldl join (bs ++ [.text s]) =
      bs ++ [.text (s ++ String.join parts)] := by
  induction parts generalizing s with
  | nil => simp
  | cons t rest ih =>
      rw [List.map_cons, List.foldl_cons, join_text, ih, String.join_cons, String.append_assoc]

theorem foldl_join_usage (bs : List Body) (counts : List Usage) :
    (counts.map Body.usage).foldl join bs = bs := by
  induction counts with
  | nil => rfl
  | cons u rest ih => exact ih

theorem foldl_join_results (bs : List Body) (results : List Result) :
    (results.map Body.result).foldl join bs = bs ++ results.map .result := by
  induction results generalizing bs with
  | nil => simp
  | cons r rest ih =>
      rw [List.map_cons, List.foldl_cons, ih]
      simp [join]

end Body

namespace Spoken

/-- Whether it is a text that is said. -/
def isText : Spoken → Bool
  | .text _ => true
  | .call _ _ _ => false

/-- Things said one after the other of which no two neighbours are texts. -/
def Apart (xs : List Spoken) : Prop :=
  xs.IsChain fun x y => x.isText = false ∨ y.isText = false

/-- **Pieces join to what was said**, because a text never follows a text. -/
theorem foldl_join_pieces {xs : List Spoken} {pieces : List (List Body)}
    (h : List.Forall₂ Pieces xs pieces) (hapart : Apart xs) (bs : List Body)
    (hfirst : ∀ s, bs.getLast? = some (.text s) → ∀ x ∈ xs.head?, x.isText = false) :
    pieces.flatten.foldl Body.join bs = bs ++ xs.map Spoken.body := by
  induction h generalizing bs with
  | nil => simp
  | @cons x ps rest more hx _ ih =>
      have hone : ps.foldl Body.join bs = bs ++ [x.body] := by
        cases x with
        | text s =>
            obtain ⟨parts, hne, rfl, rfl⟩ := hx
            obtain ⟨p, parts, rfl⟩ := List.exists_cons_of_ne_nil hne
            have hlast : Body.join bs (.text p) = bs ++ [.text p] := by
              cases hbs : bs.getLast? with
              | none => simp [Body.join, hbs]
              | some b =>
                  cases b
                  case text s => exact absurd (hfirst s hbs _ rfl) (by simp [isText])
                  all_goals simp [Body.join, hbs]
            rw [List.map_cons, List.foldl_cons, hlast, Body.foldl_join_texts, String.join_cons]
            rfl
        | call id name input =>
            obtain rfl := hx
            simp [Body.join, body]
      have hnext : ∀ s, (bs ++ [x.body]).getLast? = some (.text s) →
          ∀ y ∈ rest.head?, y.isText = false := by
        intro s hs y hy
        obtain ⟨more', rfl⟩ : ∃ more', rest = y :: more' := by
          cases rest with
          | nil => simp at hy
          | cons z zs => exact ⟨zs, by rw [Option.some.inj hy]⟩
        rcases (List.isChain_cons_cons.mp hapart).1 with hcall | hcall
        · cases x <;> simp [isText, body] at hcall hs
        · exact hcall
      rw [List.flatten_cons, List.foldl_append, hone, ih ?_ _ hnext, List.map_cons,
        List.append_assoc, List.singleton_append]
      exact hapart.tail

/-- The calls among the pieces are those that were requested, and none of them are counts. -/
theorem filterMap_pieces {xs : List Spoken} {pieces : List (List Body)}
    (h : List.Forall₂ Pieces xs pieces) :
    pieces.flatten.filterMap Body.call? = xs.filterMap Spoken.call? ∧
      pieces.flatten.filterMap Body.usage? = [] := by
  induction h with
  | nil => exact ⟨rfl, rfl⟩
  | @cons x ps _ _ hx _ ih =>
      have hone : ps.filterMap Body.call? = x.call?.toList ∧ ps.filterMap Body.usage? = [] := by
        cases x with
        | text s =>
            obtain ⟨parts, -, -, rfl⟩ := hx
            simp [call?, Body.call?, Body.usage?]
        | call id name input =>
            obtain rfl := hx
            exact ⟨rfl, rfl⟩
      rw [List.flatten_cons, List.filterMap_append, List.filterMap_append, hone.1, hone.2, ih.1,
        ih.2]
      refine ⟨?_, rfl⟩
      cases hcall : x.call? <;> simp [hcall]

end Spoken

/-! ### Messages that are told -/

/-- Tell something on: to the message that is open, which is the first, if the same one speaks, and
else in a new one. -/
def tell (told : List Gist) (role : Role) (bodies : List Body) : List Gist :=
  match told with
  | (r, bs) :: earlier =>
    if r = role then (r, bodies.foldl Body.join bs) :: earlier
    else (role, bodies.foldl Body.join []) :: told
  | [] => [(role, bodies.foldl Body.join [])]

/-- Messages after which the given role has to open one of its own. -/
def ReadyFor (role : Role) (told : List Gist) : Prop := ∀ g ∈ told.head?, g.1 ≠ role

theorem tell_ready {role : Role} {told : List Gist} (h : ReadyFor role told) (bodies : List Body) :
    tell told role bodies = (role, bodies.foldl Body.join []) :: told := by
  cases told with
  | nil => rfl
  | cons g earlier => exact if_neg (h g rfl)

theorem tell_tell (told : List Gist) (role : Role) (bs cs : List Body) :
    tell (tell told role bs) role cs = tell told role (bs ++ cs) := by
  rcases told with _ | ⟨⟨r, bodies⟩, earlier⟩
  · simp [tell]
  · by_cases hr : r = role <;> simp [tell, hr]

namespace Response

namespace Joined

/-- The messages so far, the last one first. -/
def told (j : Joined) : List Gist := j.reversed.map Message.gist

theorem appendContent_bodies {c : Content} (h : ∀ u, c.body ≠ .usage u) (cs : List Content) :
    (appendContent cs c).map Content.body = Body.join (cs.map Content.body) c.body := by
  unfold appendContent Content.text? Body.join
  rw [List.getLast?_map]
  cases hlast : cs.getLast? with
  | none => cases hc : c.body <;> simp_all
  | some before => cases hc : c.body <;> cases hb : before.body <;> simp_all [Content.ofText]

/-- A content joins the message that is open. -/
theorem told_addContent {j : Joined} {role : Role} {bodies : List Body} {earlier : List Gist}
    (h : j.told = (role, bodies) :: earlier) (c : Content) :
    (j.addContent c).told = (role, Body.join bodies c.body) :: earlier := by
  obtain ⟨m, rest, hreversed, hm, hrest⟩ := List.map_eq_cons_iff.mp h
  obtain ⟨rfl, rfl⟩ := Prod.mk.inj hm
  by_cases hu : ∃ u, c.body = .usage u
  · obtain ⟨u, hu⟩ := hu
    unfold addContent
    rw [hu]
    exact h
  · have hbody : j.addContent c =
        { j with reversed := { m with contents := appendContent m.contents c } :: rest } := by
      unfold addContent
      rw [hreversed]
      split
      · rename_i u hc
        exact absurd ⟨u, hc⟩ hu
      · rfl
    rw [hbody, ← appendContent_bodies (fun u hc => hu ⟨u, hc⟩), ← hrest]
    rfl

theorem told_foldl_addContent {j : Joined} {role : Role} {bodies : List Body}
    {earlier : List Gist} (h : j.told = (role, bodies) :: earlier) (cs : List Content) :
    (cs.foldl addContent j).told =
      (role, (cs.map Content.body).foldl Body.join bodies) :: earlier := by
  induction cs generalizing j bodies with
  | nil => exact h
  | cons c rest ih =>
      rw [List.foldl_cons, ih (told_addContent h c)]
      rfl

/-- **Adding an update tells its contents.** -/
theorem told_add (j : Joined) {u : Update} {role : Role} (h : u.role = some role) :
    (j.add u).told = tell j.told role (u.contents.map Content.body) := by
  have hopen : ∃ bodies earlier, (j.open role u.messageId).told = (role, bodies) :: earlier ∧
      tell j.told role (u.contents.map Content.body) =
        (role, (u.contents.map Content.body).foldl Body.join bodies) :: earlier := by
    obtain ⟨reversed, _, _, _, _, _, _⟩ := j
    unfold Joined.open told
    cases reversed with
    | nil => exact ⟨[], [], rfl, rfl⟩
    | cons m earlier =>
        dsimp only
        by_cases hm : m.role = role
        · rw [if_pos hm]
          exact ⟨_, _, by rw [List.map_cons, Message.gist, hm], by
            rw [List.map_cons, Message.gist, hm, tell, if_pos rfl]⟩
        · rw [if_neg hm]
          exact ⟨_, _, rfl, by rw [List.map_cons, Message.gist, tell, if_neg hm]; rfl⟩
  obtain ⟨bodies, earlier, hopened, htell⟩ := hopen
  rw [htell, ← told_foldl_addContent hopened]
  unfold add roleOf
  rw [h]
  rfl

theorem told_foldl_add {us : List Update} {role : Role} (hne : us ≠ [])
    (h : ∀ u ∈ us, u.role = some role) (j : Joined) :
    (us.foldl add j).told =
      tell j.told role (us.flatMap fun u => u.contents.map Content.body) := by
  induction us generalizing j with
  | nil => exact absurd rfl hne
  | cons u rest ih =>
      have hu := told_add j (h u (by simp))
      cases rest with
      | nil => simpa using hu
      | cons v more =>
          rw [List.foldl_cons, ih (by simp) (fun x hx => h x (by simp [hx])), hu, tell_tell]
          rfl

/-! ### Counts, and the end of a message -/

theorem usage_foldl_addContent (cs : List Content) (j : Joined) :
    (cs.foldl addContent j).usage =
      ((cs.map Content.body).filterMap Body.usage?).foldl Usage.gather j.usage := by
  induction cs generalizing j with
  | nil => rfl
  | cons c rest ih =>
      have hone : (j.addContent c).usage = c.body.usage?.toList.foldl Usage.gather j.usage := by
        unfold addContent Body.usage?
        cases c.body
        case usage u => rfl
        all_goals
          dsimp only
          split <;> rfl
      rw [List.foldl_cons, ih, hone, List.map_cons]
      cases hu : c.body.usage? <;> simp [hu]

theorem usage_open (j : Joined) (role : Role) (id : Option String) :
    (j.open role id).usage = j.usage := by
  unfold Joined.open
  split
  · split <;> rfl
  · rfl

/-- **Counts come together from all updates.** -/
theorem usage_foldl_add (us : List Update) (j : Joined) :
    (us.foldl add j).usage = ((us.flatMap fun u => u.contents.map Content.body).filterMap
      Body.usage?).foldl Usage.gather j.usage := by
  induction us generalizing j with
  | nil => rfl
  | cons u rest ih =>
      have hu : (j.add u).usage =
          ((u.contents.map Content.body).filterMap Body.usage?).foldl Usage.gather j.usage :=
        (usage_foldl_addContent u.contents _).trans (by rw [usage_open])
      rw [List.foldl_cons, ih, hu, List.flatMap_cons, List.filterMap_append, List.foldl_append]

theorem foldl_addContent_kept (cs : List Content) (j : Joined) :
    (cs.foldl addContent j).finishReason = j.finishReason ∧
      (cs.foldl addContent j).modelId = j.modelId := by
  induction cs generalizing j with
  | nil => exact ⟨rfl, rfl⟩
  | cons c rest ih =>
      have hone : (j.addContent c).finishReason = j.finishReason ∧
          (j.addContent c).modelId = j.modelId := by
        unfold addContent
        split
        · exact ⟨rfl, rfl⟩
        · split <;> exact ⟨rfl, rfl⟩
      rw [List.foldl_cons, (ih _).1, (ih _).2]
      exact hone

theorem open_kept (j : Joined) (role : Role) (id : Option String) :
    (j.open role id).finishReason = j.finishReason ∧ (j.open role id).modelId = j.modelId := by
  unfold Joined.open
  split
  · split <;> exact ⟨rfl, rfl⟩
  · exact ⟨rfl, rfl⟩

theorem finishReason_add (j : Joined) (u : Update) :
    (j.add u).finishReason = u.finishReason.or j.finishReason := by
  have hkept := ((foldl_addContent_kept u.contents (j.open (j.roleOf u) u.messageId)).1).trans
    (open_kept j (j.roleOf u) u.messageId).1
  unfold add
  dsimp only
  cases u.finishReason with
  | some reason => rfl
  | none =>
      rw [Option.none_or, ← hkept]
      dsimp only
      split
      · rename_i hnone
        rw [Bool.and_eq_true] at hnone
        exact (Option.isNone_iff_eq_none.mp hnone.1).symm
      · rfl

theorem modelId_add (j : Joined) (u : Update) :
    (j.add u).modelId = orEarlier u.modelId j.modelId :=
  congrArg (orEarlier u.modelId)
    (((foldl_addContent_kept u.contents (j.open (j.roleOf u) u.messageId)).2).trans
      (open_kept j (j.roleOf u) u.messageId).2)

theorem orEarlier_some {s : String} (h : s ≠ "") (old : Option String) :
    orEarlier (some s) old = some s := by
  unfold orEarlier
  split
  · rename_i hs
    exact absurd (Option.some.inj hs) h
  · rename_i hs
    exact hs.symm
  · rename_i hs
    cases hs

theorem finishReason_foldl_add {us : List Update} (h : ∀ u ∈ us, u.finishReason = none)
    (j : Joined) : (us.foldl add j).finishReason = j.finishReason := by
  induction us generalizing j with
  | nil => rfl
  | cons u rest ih =>
      rw [List.foldl_cons, ih fun x hx => h x (by simp [hx]), finishReason_add, h u (by simp),
        Option.none_or]

theorem modelId_foldl_add {us : List Update} {id : String} (hid : id ≠ "") (hne : us ≠ [])
    (h : ∀ u ∈ us, u.modelId = some id) (j : Joined) :
    (us.foldl add j).modelId = some id := by
  induction us generalizing j with
  | nil => exact absurd rfl hne
  | cons u rest ih =>
      cases rest with
      | nil =>
          rw [List.foldl_cons, List.foldl_nil, modelId_add, h u (by simp), orEarlier_some hid]
      | cons v more => exact ih (by simp) (fun x hx => h x (by simp [hx])) _

end Joined

/-! ### A turn -/

/-- What updates add to what has been put together: messages, told behind those before, the reason
to stop, the model, and counts. -/
structure Joined.Adds (j k : Joined) (gists : List Gist) (reason : Option FinishReason)
    (modelId : Option String) (counts : List Usage) : Prop where
  told : k.told = gists.reverse ++ j.told
  finishReason : k.finishReason = reason
  modelId : k.modelId = modelId
  usage : k.usage = counts.foldl Usage.gather j.usage

/-- **A turn that arrives adds one message of the assistant**, its reason to stop and its counts. -/
theorem Joined.adds_arrives {u : Utterance} {id : String} {us : List Update} (h : u.Arrives id us)
    (hapart : Spoken.Apart u.spoken) (hid : id ≠ "") {j : Joined}
    (hready : ReadyFor .assistant j.told) :
    j.Adds (us.foldl add j) [(.assistant, u.spoken.map Spoken.body)]
      (some (.ofStopWord u.word)) (some id) u.reported := by
  obtain ⟨said, report, stop, pieces, rfl, hpieces, hsaid, hstop, hreport⟩ := h
  have hrole : ∀ v ∈ said ++ stop :: report, v.role = some .assistant := by
    intro v hv
    rcases List.mem_append.mp hv with hv | hv
    · exact hsaid.role v hv
    · rcases List.mem_cons.mp hv with rfl | hv
      · exact hstop.role
      · exact hreport.role v hv
  have hmodel : ∀ v ∈ said ++ stop :: report, v.modelId = some id := by
    intro v hv
    rcases List.mem_append.mp hv with hv | hv
    · exact hsaid.modelId v hv
    · rcases List.mem_cons.mp hv with rfl | hv
      · exact hstop.modelId
      · exact hreport.modelId v hv
  have hbodies : (said ++ stop :: report).flatMap (fun v => v.contents.map Content.body) =
      pieces.flatten ++ u.reported.map .usage := by
    rw [List.flatMap_append, hsaid.bodies, List.flatMap_cons, hstop.contents, hreport.bodies]
    rfl
  refine ⟨?_, ?_, modelId_foldl_add hid (by simp) hmodel j, ?_⟩
  · rw [told_foldl_add (by simp) hrole, tell_ready hready, hbodies, List.foldl_append,
      Spoken.foldl_join_pieces hpieces hapart [] (by simp), Body.foldl_join_usage]
    rfl
  · rw [List.foldl_append, List.foldl_cons, finishReason_foldl_add hreport.unfinished,
      finishReason_add, hstop.reason, Option.some_or]
  · have hcounts : (u.reported.map Body.usage).filterMap Body.usage? = u.reported := by
      rw [List.filterMap_map]
      exact List.filterMap_some
    rw [usage_foldl_add, hbodies, List.filterMap_append, (Spoken.filterMap_pieces hpieces).2,
      hcounts, List.nil_append]

theorem gists_ofUpdates (us : List Update) :
    (ofUpdates us).messages.map Message.gist = (us.foldl Joined.add {}).told.reverse :=
  List.map_reverse

/-- The results of calls are told as one message behind that of the assistant, and bring no
counts. -/
theorem Joined.add_results {j : Joined} {bodies : List Body} {earlier : List Gist}
    (h : j.told = (.assistant, bodies) :: earlier) (results : List Result) :
    (j.add (Client.resultsUpdate results)).told = (.tool, results.map Body.result) :: j.told ∧
      (j.add (Client.resultsUpdate results)).usage = j.usage := by
  have hready : ReadyFor .tool j.told := by
    intro g hg
    rw [h] at hg
    rw [← Option.some.inj hg]
    show Role.assistant ≠ Role.tool
    decide
  have hbodies : (Client.resultsUpdate results).contents.map Content.body =
      results.map Body.result := by
    unfold Client.resultsUpdate
    rw [List.map_map]
    rfl
  constructor
  · rw [told_add j (u := Client.resultsUpdate results) rfl, tell_ready hready, hbodies,
      Body.foldl_join_results, List.nil_append]
  · have hnone : (results.map Body.result).filterMap Body.usage? = [] := by
      simp [Body.usage?]
    have husage := usage_foldl_add [Client.resultsUpdate results] j
    rwa [List.flatMap_cons, hbodies, List.flatMap_nil, List.append_nil, hnone] at husage

end Response

/-! ### The calls of a turn -/

theorem Client.callsOf_eq (us : List Update) :
    callsOf us = (us.flatMap fun u => u.contents.map Content.body).filterMap Body.call? := by
  induction us with
  | nil => rfl
  | cons u rest ih =>
      unfold callsOf at ih ⊢
      rw [List.flatMap_cons, List.flatMap_cons, List.filterMap_append, ih, Content.calls_eq]

/-- **The calls in the updates of a turn are those that were requested.** -/
theorem Utterance.Arrives.callsOf {u : Utterance} {id : String} {us : List Update}
    (h : u.Arrives id us) : Client.callsOf us = u.spoken.filterMap Spoken.call? := by
  obtain ⟨said, report, stop, pieces, rfl, hpieces, hsaid, hstop, hreport⟩ := h
  have hnone : (u.reported.map Body.usage).filterMap Body.call? = [] := by
    simp [Body.call?]
  rw [Client.callsOf_eq, List.flatMap_append, hsaid.bodies, List.flatMap_cons, hstop.contents,
    hreport.bodies, List.map_nil, List.nil_append, List.filterMap_append,
    (Spoken.filterMap_pieces hpieces).1, hnone, List.append_nil]

end Parley
