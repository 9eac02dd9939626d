/-
Counting tokens over a run.

A run on complete replies gives the counts of the reply that ends it, and those of the
turns before are nowhere in it.  The updates of a run on events bring the counts of
every turn, and joining them adds them up.  So the two agree in exactly the runs in
which the earlier turns count for nothing.
-/
import Mathlib.Algebra.BigOperators.Group.List.Basic
import Mathlib.Algebra.Group.Prod
import Mathlib.Algebra.Ring.Int.Defs
import Parley.Proofs.Agreement

namespace Parley

/-! ### Sums of counts -/

namespace Usage

/-- The counts as numbers: of the input, of the output, and in total.  An unknown one is zero. -/
def tokens (u : Usage) : Int × Int × Int :=
  (u.input.getD 0, u.output.getD 0, u.total.getD 0)

theorem tokens_add (a b : Usage) : (a + b).tokens = a.tokens + b.tokens := rfl

/-- Counts that are gathered are added up. -/
theorem tokens_foldl_gather (us : List Usage) (a : Usage) :
    ∃ total, us.foldl gather (some a) = some total ∧
      total.tokens = a.tokens + (us.map tokens).sum := by
  induction us generalizing a with
  | nil => exact ⟨a, rfl, by simp⟩
  | cons u rest ih =>
      obtain ⟨total, htotal, hsum⟩ := ih (a + u)
      exact ⟨total, htotal, by rw [hsum, tokens_add, List.map_cons, List.sum_cons, add_assoc]⟩

theorem tokens_gathered {us : List Usage} (h : us ≠ []) :
    ∃ total, us.foldl gather none = some total ∧ total.tokens = (us.map tokens).sum := by
  obtain ⟨u, rest, rfl⟩ := List.exists_cons_of_ne_nil h
  obtain ⟨total, htotal, hsum⟩ := tokens_foldl_gather rest u
  exact ⟨total, htotal, by rw [hsum, List.map_cons, List.sum_cons]⟩

end Usage

/-! ### Replies that report counts -/

/-- A reply that reports counts, whatever else is in it. -/
def Reply.Reports (counts : Usage) (reply : Reply) : Prop :=
  ∃ v, reply = .answer v ∧
    ((Attachment.document v).lookup "usage" .null >>= Wire.usage) = .ok counts

/-- A session whose replies report counts, one after the other. -/
def Session.Reports (counts : List Usage) (s : Session) : Prop :=
  List.Forall₂ Reply.Reports counts s.replies

theorem Reply.Reports.unique {a b : Usage} {reply : Reply} (h : reply.Reports a)
    (h' : reply.Reports b) : a = b := by
  obtain ⟨v, rfl, hv⟩ := h
  obtain ⟨w, hw, hv'⟩ := h'
  obtain rfl := Reply.answer.inj hw
  exact Except.ok.inj (hv.symm.trans hv')

namespace ChatModel

variable {m : ChatModel} {messages : List Given} {arguments : List (String × Given)} {s t : Session}
  {counts : List Usage} {r : Response}

/-- A reply that is read has the counts that it reports. -/
theorem read_usage (id : String) {reply : Document} {u : Usage}
    (hu : (reply.lookup "usage" .null >>= Wire.usage) = .ok u) (h : (read id reply).2 = .ok r) :
    r.usage = some u := by
  unfold read at h
  dsimp only at h
  split at h
  · cases h
  · obtain ⟨contents, -, h⟩ := Outcome.bind_ok.mp h
    obtain ⟨v, hv, h⟩ := Outcome.bind_ok.mp h
    obtain ⟨usage, husage, h⟩ := Outcome.bind_ok.mp h
    obtain ⟨word, -, h⟩ := Outcome.bind_ok.mp h
    obtain ⟨reason, -, h⟩ := Outcome.bind_ok.mp h
    obtain ⟨g, -, h⟩ := Outcome.bind_ok.mp h
    obtain ⟨id', -, h⟩ := Outcome.bind_ok.mp h
    rw [hv, Outcome.ok_bind, husage] at hu
    obtain rfl := Except.ok.inj hu
    rw [← Except.ok.inj h]

/-- A model that gives a reply has sent one request and taken the next reply, with its counts. -/
theorem respond_reports (hs : s.Reports counts)
    (h : m.respond messages arguments s = (.ok r, t)) :
    ∃ u rest request, counts = u :: rest ∧ r.usage = some u ∧ t.Reports rest ∧
      t.requests = s.requests ++ [request] := by
  cases hprepared : (m.prepared messages arguments).2 with
  | error f =>
      rw [respond_unprepared hprepared] at h
      cases (Prod.mk.inj h).1
  | ok made =>
      obtain ⟨id, request⟩ := made
      cases hs' : s.replies with
      | nil =>
          obtain ⟨records, -, hrespond⟩ := respond_exhausted (m := m) hprepared hs'
          rw [hrespond] at h
          cases (Prod.mk.inj h).1
      | cons reply more =>
          have hall := hs
          unfold Session.Reports at hall
          rw [hs'] at hall
          obtain ⟨u, rest, ⟨v, rfl, hu⟩, hrest, rfl⟩ := List.forall₂_cons_right_iff.mp hall
          obtain ⟨records, -, hrespond⟩ := respond_answer (m := m) hprepared hs'
          rw [hrespond] at h
          obtain ⟨hread, rfl⟩ := Prod.mk.inj h
          refine ⟨u, rest, request, rfl, read_usage id hu ?_, hrest, rfl⟩
          cases hr : (read id (Attachment.document v)).2 with
          | error f =>
              rw [hr] at hread
              cases hread
          | ok r' =>
              rw [hr] at hread
              exact congrArg Except.ok (Except.ok.inj hread)

end ChatModel

/-! ### The whole run -/

/-- How a run ends that has taken replies with counts: with the counts of the last one, of as many
as there were requests. -/
def Session.Spends (s : Session) (counts : List Usage) (r : Response) (t : Session) : Prop :=
  ∃ before last rest, counts = before ++ last :: rest ∧
    t.requests.length = s.requests.length + (before.length + 1) ∧ r.usage = some last

namespace Session.Spends

variable {s t u : Session} {counts : List Usage} {c : Usage} {r : Response} {request : Document}

theorem one (hsent : t.requests = s.requests ++ [request]) (h : r.usage = some c) :
    s.Spends (c :: counts) r t :=
  ⟨[], c, counts, rfl, by simp [hsent], h⟩

/-- A turn in front is one more request, and its counts are passed over. -/
theorem cons (hsent : t.requests = s.requests ++ [request]) (h : t.Spends counts r u) :
    s.Spends (c :: counts) r u := by
  obtain ⟨before, last, rest, rfl, hlength, husage⟩ := h
  refine ⟨c :: before, last, rest, rfl, ?_, husage⟩
  rw [hlength, hsent, List.length_append, List.length_singleton, List.length_cons]
  omega

end Session.Spends

namespace ChatModel

theorem respondFrom_reports (m : ChatModel) (limit : Int) (arguments : List (String × Given))
    (n : Nat) : ∀ (messages : List Given) (earlier : List Message) (counts : List Usage)
      (s t : Session) (r : Response), s.Reports counts →
      Client.respondFrom m.bare limit arguments n messages earlier s = (.ok r, t) →
      s.Spends counts r t := by
  induction n with
  | zero =>
      intro messages earlier counts s t r hs h
      rw [Client.respondFrom_limit, Run.bind_pure_apply] at h
      rcases hask : m.bare.respond messages (Client.plain arguments) (Client.noteLimit limit s).2
        with ⟨e | r', t'⟩
      · rw [hask] at h
        cases (Prod.mk.inj h).1
      · rw [hask] at h
        obtain ⟨hr, rfl⟩ := Prod.mk.inj h
        obtain ⟨u, rest, request, rfl, husage, -, hsent⟩ :=
          respond_reports (s := (Client.noteLimit limit s).2) hs hask
        obtain rfl := Except.ok.inj hr
        exact .one (s := s) hsent husage
  | succ n ih =>
      intro messages earlier counts s t r hs h
      rcases hask : m.bare.respond messages arguments s with ⟨e | r', t'⟩
      · rw [Client.respondFrom_error hask] at h
        cases (Prod.mk.inj h).1
      · obtain ⟨u, rest, request, rfl, husage, hrest, hsent⟩ := respond_reports hs hask
        by_cases hcalls : Message.calls r'.messages = []
        · rw [Client.respondFrom_answered hask hcalls] at h
          obtain ⟨hr, rfl⟩ := Prod.mk.inj h
          obtain rfl := Except.ok.inj hr
          exact .one hsent husage
        by_cases htools : m.bare.tools arguments = []
        · rw [Client.respondFrom_untooled hask htools] at h
          obtain ⟨hr, rfl⟩ := Prod.mk.inj h
          obtain rfl := Except.ok.inj hr
          exact .one hsent husage
        cases hran : (Call.execute (Message.calls r'.messages) (m.bare.tools arguments)).2 with
        | error f =>
            rw [Client.respondFrom_broken hask hcalls htools hran] at h
            cases (Prod.mk.inj h).1
        | ok results =>
            rw [Client.respondFrom_executed hask hcalls htools hran] at h
            have hmore := ih _ _ rest _ t r (show Session.Reports rest { t' with
              log := t'.log ++ _ } from hrest) h
            exact .cons hsent hmore

/-- A turn that is replied reports its counts. -/
theorem reports_of_replying {script : List Utterance} {s : Session} (h : Replying script s) :
    s.Reports (script.map Utterance.counts) := by
  unfold Session.Reports
  rw [List.forall₂_map_left_iff]
  exact h.imp fun u reply hreply => by
    obtain ⟨v, hv, hreplied⟩ := hreply
    exact ⟨v, hv, hreplied.counted⟩

/-- The counts that replies report are determined by them. -/
theorem reports_unique {s : Session} {counts counts' : List Usage} (h : s.Reports counts)
    (h' : s.Reports counts') : counts = counts' := by
  unfold Session.Reports at h h'
  generalize s.replies = replies at h h'
  induction h generalizing counts' with
  | nil => exact (List.forall₂_nil_right_iff.mp h').symm
  | cons hreply _ ih =>
      obtain ⟨c, rest, hreply', hrest, rfl⟩ := List.forall₂_cons_right_iff.mp h'
      rw [hreply.unique hreply', ih hrest]

theorem flatMap_reported {script : List Utterance} (h : ∀ u ∈ script, u.reports = true) :
    script.flatMap Utterance.reported = script.map Utterance.counts := by
  induction script with
  | nil => rfl
  | cons u rest ih =>
      rw [List.flatMap_cons, List.map_cons, ih fun v hv => h v (by simp [hv])]
      unfold Utterance.reported
      rw [h u (by simp)]
      rfl

/-- The same run on events brings the counts of all the turns that it took. -/
theorem streamFrom_counts {m : ChatModel} {limit : Int} {arguments : List (String × Given)}
    {n : Nat} {front : List Given} {script : List Utterance} {s t s' : Session} {r : Response}
    {counts : List Usage} (hreports : s.Reports counts)
    (hapart : ∀ u ∈ script, Spoken.Apart u.spoken) (hall : ∀ u ∈ script, u.reports = true)
    (hs : Replying script s) (hs' : Streaming script s') (hbudget : s'.budget = none)
    (h : Client.respondFrom m.bare limit arguments n front [] s = (.ok r, t)) :
    ∃ us t' before last rest total, counts = before ++ last :: rest ∧
      t.requests.length = s.requests.length + (before.length + 1) ∧
      Client.streamFrom m.bare limit arguments n front s' = (.ok us, t') ∧
      (Response.ofUpdates us).usage = some total ∧
      total.tokens = ((before ++ [last]).map Usage.tokens).sum := by
  have hagree :=
    loops_agree m limit arguments front n [] [] [] script s s' rfl hapart hs hs' hbudget
  rw [show front ++ Client.given [] = front from List.append_nil front, h] at hagree
  obtain ⟨requests, us, ⟨records, records', hgrows, -, -⟩, halike⟩ := hagree
  rcases hy : Client.streamFrom m.bare limit arguments n front s' with ⟨y, t'⟩
  rw [hy] at halike
  dsimp only at halike
  cases halike with
  | @answered before rest last _ more hscript hasked hr husage hus =>
      have hcounts := reports_unique hreports (reports_of_replying hs)
      have hadds := hus {} (by simp [ReadyFor, Response.Joined.told])
      have htaken : (before ++ [last]).flatMap Utterance.reported =
          (before ++ [last]).map Utterance.counts :=
        flatMap_reported fun u hu => hall u (by
          rw [hscript]
          rcases List.mem_append.mp hu with hu | hu
          · simp [hu]
          · simp [List.mem_singleton.mp hu])
      obtain ⟨total, htotal, hsum⟩ := Usage.tokens_gathered
        (show (before ++ [last]).map Utterance.counts ≠ [] by simp)
      refine ⟨us, t', before.map Utterance.counts, last.counts, rest.map Utterance.counts, total,
        ?_, ?_, rfl, ?_, ?_⟩
      · rw [hcounts, hscript]
        simp
      · rw [hgrows.requests, List.length_append, hasked, List.length_map]
      · rw [← htotal, ← htaken]
        exact hadds.usage
      · simpa using hsum

/-- **The counts of a run are those of its last reply, and those of its updates are the sum over all
turns.**  Whatever else the replies hold, a run on them that gives a reply has the counts that the
last of them reports; these are the sums over all of them exactly if the others come to nothing.
The same turns in events, each with a report of its counts, give updates that bring the sums. -/
theorem respond_usage_iff {s t : Session} {counts : List Usage} {r : Response}
    (hs : s.Reports counts) (m : ChatModel) (limit : Int) (messages : List Given)
    (arguments : List (String × Given))
    (h : (m.bare.looped limit).respond messages arguments s = (.ok r, t)) :
    ∃ before last rest, counts = before ++ last :: rest ∧
      t.requests.length = s.requests.length + (before.length + 1) ∧
      r.usage = some last ∧
      (last.tokens = ((before ++ [last]).map Usage.tokens).sum ↔
        (before.map Usage.tokens).sum = 0) ∧
      ∀ (script : List Utterance) (s' : Session), (∀ u ∈ script, Spoken.Apart u.spoken) →
        (∀ u ∈ script, u.reports = true) → Replying script s → Streaming script s' →
        s'.budget = none →
        ∃ us t' total, (m.bare.looped limit).stream messages arguments s' = (.ok us, t') ∧
          (Response.ofUpdates us).usage = some total ∧
          total.tokens = ((before ++ [last]).map Usage.tokens).sum := by
  by_cases henter : Client.misnamed? arguments = none ∧
      ∃ vs, Message.prepare (.list messages) = .ok vs
  · obtain ⟨hnamed, front, hfront⟩ := henter
    rw [Client.respond_looped hnamed hfront] at h
    have hspends := respondFrom_reports m limit arguments _ _ _ _ _ _ _ hs h
    obtain ⟨before, last, rest, hcounts, hlength, husage⟩ := hspends
    refine ⟨before, last, rest, hcounts, hlength, husage, by simp, ?_⟩
    intro script s' hapart hall hreplying hstreaming hbudget
    obtain ⟨us, t', before', last', rest', total, hcounts', hlength', hstream, htotal, hsum⟩ :=
      streamFrom_counts hs hapart hall hreplying hstreaming hbudget h
    -- As many requests were sent, so the turns that were taken are the same.
    have hsame : before = before' ∧ last :: rest = last' :: rest' :=
      List.append_inj (hcounts.symm.trans hcounts') (by omega)
    obtain ⟨rfl, hrest⟩ := hsame
    obtain ⟨rfl, -⟩ := List.cons.inj hrest
    exact ⟨us, t', total, (Client.stream_looped hnamed hfront).trans hstream, htotal, hsum⟩
  · rw [not_and_or, not_exists] at henter
    obtain ⟨f, hrefused⟩ := Client.looped_refused m.bare limit henter
    rw [(hrefused s).1] at h
    cases (Prod.mk.inj h).1

/-- The plainest reply that reports counts. -/
def countedReply (xs : List Spoken) (word : String) (input output : Int) : Value Attachment :=
  Value.map Attachment.foreign (.obj [("output", .obj [("message", .obj [("content",
    .list (xs.map Spoken.block))])]), ("stopReason", .str word),
    ("usage", .obj [("inputTokens", .int input), ("outputTokens", .int output)])])

theorem reports_countedReply (xs : List Spoken) (word : String) (input output : Int) :
    Reply.Reports ⟨some input, some output, some (input + output)⟩
      (.answer (countedReply xs word input output)) := by
  refine ⟨_, rfl, ?_⟩
  unfold Attachment.document countedReply Value.map
  rw [Value.bind_bind]
  exact congrArg (fun v => v.lookup "usage" .null >>= Wire.usage) (Value.bind_leaf _)

/-- Two turns, of which the first one calls a tool, with one token in and one out for each. -/
def countedReady : Session where
  replies := [.answer (countedReply calling.spoken "tool_use" 1 1),
    .answer (countedReply finishing.spoken "end_turn" 1 1)]

theorem reports_countedReady :
    countedReady.Reports [⟨some 1, some 1, some 2⟩, ⟨some 1, some 1, some 2⟩] :=
  .cons (reports_countedReply _ _ 1 1) (.cons (reports_countedReply _ _ 1 1) .nil)

/-- The run takes both turns and gives the counts of the second. -/
theorem countedReady_run :
    ∃ r t, (bareHosted.bare.looped 10).respond [.str "Hi."]
        [("tools", .list [.leaf (.tool repeater)])] countedReady = (.ok r, t) ∧
      t.requests.length = 2 ∧ r.usage = some ⟨some 1, some 1, some 2⟩ := by
  have hends : (((bareHosted.bare.looped 10).respond [.str "Hi."]
        [("tools", .list [.leaf (.tool repeater)])] countedReady).1.toOption.map Response.usage,
      ((bareHosted.bare.looped 10).respond [.str "Hi."]
        [("tools", .list [.leaf (.tool repeater)])] countedReady).2.requests.length) =
      (some (some ⟨some 1, some 1, some 2⟩), 2) := by
    decide +kernel
  rcases hrun : (bareHosted.bare.looped 10).respond [.str "Hi."]
      [("tools", .list [.leaf (.tool repeater)])] countedReady with ⟨e | r, t⟩
  · rw [hrun] at hends
    cases (Prod.mk.inj hends).1
  · rw [hrun] at hends
    obtain ⟨husage, hlength⟩ := Prod.mk.inj hends
    exact ⟨r, t, rfl, hlength, Option.some.inj husage⟩

/-- One turn comes before the one that the counts are of, and it is not nothing. -/
theorem countedReady_usage :
    ∃ r t before last, (bareHosted.bare.looped 10).respond [.str "Hi."]
        [("tools", .list [.leaf (.tool repeater)])] countedReady = (.ok r, t) ∧
      [⟨some 1, some 1, some 2⟩, ⟨some 1, some 1, some 2⟩] = before ++ [last] ∧
      before.length = 1 ∧ r.usage = some last ∧
      last.tokens ≠ ((before ++ [last]).map Usage.tokens).sum := by
  obtain ⟨r, t, hrun, hlength, -⟩ := countedReady_run
  obtain ⟨before, last, rest, hcounts, hsent, husage, hiff, -⟩ :=
    respond_usage_iff reports_countedReady bareHosted 10 [.str "Hi."]
      [("tools", .list [.leaf (.tool repeater)])] hrun
  have hone : before.length = 1 := by
    rw [hlength] at hsent
    simpa [countedReady] using hsent
  obtain ⟨first, rfl⟩ := List.length_eq_one_iff.mp hone
  obtain ⟨rfl, hrest⟩ := List.cons.inj hcounts
  obtain ⟨rfl, rfl⟩ := List.cons.inj hrest
  exact ⟨r, t, _, _, hrun, rfl, rfl, husage, fun hsum => absurd (hiff.mp hsum) (by decide)⟩

/-- The counts of a run are not always the sums over its replies. -/
theorem counts_not_summed :
    ¬ ∀ (m : ChatModel) (limit : Int) (messages : List Given) (arguments : List (String × Given))
      (s t : Session) (counts : List Usage) (r : Response), s.Reports counts →
      (m.bare.looped limit).respond messages arguments s = (.ok r, t) →
      ∃ taken rest, counts = taken ++ rest ∧
        t.requests.length = s.requests.length + taken.length ∧
        ∃ total, r.usage = some total ∧ total.tokens = (taken.map Usage.tokens).sum := by
  intro hall
  obtain ⟨r, t, hrun, hlength, husage⟩ := countedReady_run
  obtain ⟨taken, rest, hcounts, hsent, total, htotal, hsum⟩ :=
    hall _ _ _ _ _ _ _ _ reports_countedReady hrun
  have htwo : taken.length = 2 := by
    rw [hlength] at hsent
    simpa [countedReady] using hsent.symm
  obtain ⟨first, second, rfl⟩ := List.length_eq_two.mp htwo
  obtain ⟨rfl, hrest⟩ := List.cons.inj hcounts
  obtain ⟨rfl, -⟩ := List.cons.inj hrest
  obtain rfl := Option.some.inj (husage.symm.trans htotal)
  exact absurd hsum (by decide)

end ChatModel

end Parley
