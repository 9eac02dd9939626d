/-
Complete replies and streams agree.

The loop is written twice, once for complete replies and once for events, and so is
the reading of a turn.  Nothing but the substance of messages ever reaches a
request, so the two loops stay in step as long as what they have heard has the same
gists.  `Session.Paired` says what the two runs have done alike so far, and
`Alike` how they end; the induction is over the rounds, with the messages of both
runs generalised.
-/
import Parley.Proofs.Dialogue
import Parley.Proofs.Joining

namespace Parley

/-! ### Requests from the same gists -/

namespace Wire

variable {ms ns : List Message}

/-- Of the messages that come behind the first ones only the gist gets into a request. -/
theorem request_congr (h : ms.map Message.gist = ns.map Message.gist) (front : List Given)
    (o : Options) (id : String) :
    request (front ++ Client.given ms) o id = request (front ++ Client.given ns) o id := by
  have hleading : ∀ xs : List Message, Given.leading Message.ofGiven? (front ++ Client.given xs) =
      match Given.leading Message.ofGiven? front with
      | (as, none) => (as ++ xs, none)
      | (as, some v) => (as, some v) := by
    intro xs
    rw [leading_append, leading_given]
    rcases Given.leading Message.ofGiven? front with ⟨as, _ | v⟩ <;> rfl
  rcases hfront : Given.leading Message.ofGiven? front with ⟨as, _ | v⟩
  · have hboth : (as ++ ms).map Message.gist = (as ++ ns).map Message.gist := by
      rw [List.map_append, List.map_append, h]
    obtain ⟨hconv, hremarks⟩ := conversation_congr hboth
    unfold request remarksOf conversationOf
    simp only [hleading, hfront, hconv, hremarks]
  · unfold request remarksOf conversationOf
    simp only [hleading, hfront]

end Wire

/-! ### Two runs in step -/

/-- A session that has a complete reply ready for each turn. -/
def Replying (script : List Utterance) (s : Session) : Prop :=
  List.Forall₂ (fun u reply => ∃ v, reply = Reply.answer v ∧ u.Replied (Attachment.document v))
    script s.replies

/-- A session that has a stream ready for each turn. -/
def Streaming (script : List Utterance) (s : Session) : Prop :=
  List.Forall₂ (fun u reply => ∃ events closeable,
    reply = Reply.stream (events.map .event) closeable ∧ u.Streamed events) script s.replies

/-- The records about tools. -/
def Record.aboutTools (records : List Record) : List Record :=
  records.filter fun r => r.source == .tools

theorem Record.aboutTools_eq_nil {records : List Record} (h : ∀ r ∈ records, r.source ≠ .tools) :
    aboutTools records = [] := by
  unfold aboutTools
  rw [List.filter_eq_nil_iff]
  exact fun r hr => by simpa using h r hr

theorem Record.aboutTools_append (as bs : List Record) :
    aboutTools (as ++ bs) = aboutTools as ++ aboutTools bs :=
  List.filter_append ..

/-- Two runs that have sent the same requests and noted the same about tools, the second of which
has handed on updates. -/
def Session.Paired (s t s' t' : Session) (requests : List Document) (us : List Update) : Prop :=
  ∃ records records', s.Grows t requests records ∧ s'.Advances t' requests records' us ∧
    Record.aboutTools records = Record.aboutTools records'

namespace Session.Paired

variable {s t u s' t' u' : Session} {ds es : List Document} {us vs : List Update}

theorem trans (h : Paired s t s' t' ds us) (h' : Paired t u t' u' es vs) :
    Paired s u s' u' (ds ++ es) (us ++ vs) := by
  obtain ⟨rs, rs', hgrows, hadvances, htools⟩ := h
  obtain ⟨qs, qs', hgrows', hadvances', htools'⟩ := h'
  refine ⟨rs ++ qs, rs' ++ qs', hgrows.trans hgrows', hadvances.trans hadvances', ?_⟩
  rw [Record.aboutTools_append, Record.aboutTools_append, htools, htools']

theorem note (s s' : Session) (records : List Record) :
    Paired s { s with log := s.log ++ records } s' { s' with log := s'.log ++ records } [] [] :=
  ⟨records, records, ⟨by simp, rfl⟩, s'.advances_note records, rfl⟩

theorem receive (s s' : Session) (us : List Update) : Paired s s s' (s'.receive us) [] us :=
  ⟨[], [], .refl s, s'.advances_receive us, rfl⟩

theorem budget (h : Paired s t s' t' ds us) : t'.budget = s'.budget := by
  obtain ⟨_, _, _, hadvances, _⟩ := h
  exact hadvances.budget

end Session.Paired

/-- A turn that is heard in both ways: as a reply with one message and the counts, and as updates
that add the same. -/
structure Utterance.Heard (u : Utterance) (r : Response) (us : List Update) : Prop where
  gists : r.messages.map Message.gist = [(.assistant, u.spoken.map Spoken.body)]
  usage : r.usage = some u.counts
  adds : ∀ j : Response.Joined, ReadyFor .assistant j.told →
    j.Adds (us.foldl Response.Joined.add j) [(.assistant, u.spoken.map Spoken.body)]
      r.finishReason r.modelId u.reported
  calls : Client.callsOf us = Message.calls r.messages

namespace ChatModel

variable {m : ChatModel} {arguments : List (String × Given)} {ms ns : List Message}
  {front : List Given} {script : List Utterance} {s s' : Session}

theorem prepared_congr (m : ChatModel) (arguments : List (String × Given))
    (h : ms.map Message.gist = ns.map Message.gist) (front : List Given) :
    m.prepared (front ++ Client.given ms) arguments =
      m.prepared (front ++ Client.given ns) arguments := by
  have hempty : (front ++ Client.given ms).isEmpty = (front ++ Client.given ns).isEmpty := by
    have hlength : ms.length = ns.length := by
      simpa using congrArg List.length h
    rw [Bool.eq_iff_iff, List.isEmpty_iff_length_eq_zero, List.isEmpty_iff_length_eq_zero]
    simp [Client.given, hlength]
  unfold prepared
  simp only [hempty, Wire.request_congr h]

/-- A request names a model by a text that is not empty. -/
theorem prepared_id_ne {messages : List Given} {id : String} {request : Document}
    (h : (m.prepared messages arguments).2 = .ok (id, request)) : id ≠ "" := by
  have hset : ∀ s : Option String, nonEmpty? s = some id → id ≠ "" := by
    intro s hs
    simpa using (Option.filter_eq_some_iff.mp hs).2
  obtain ⟨o, -, hid, -⟩ := prepared_ok h
  unfold modelIdFor at hid
  split at hid
  · rename_i id' hid'
    obtain rfl := Except.ok.inj hid
    rcases Option.or_eq_some_iff.mp hid' with h | ⟨-, h⟩
    · exact hset _ h
    · exact hset _ h
  · simp at hid

theorem stream_unprepared {messages : List Given} {f : Fault}
    (h : (m.prepared messages arguments).2 = .error f) (s : Session) :
    m.stream messages arguments s =
      (.error (.fault f), { s with log := s.log ++ (m.prepared messages arguments).1 }) := by
  unfold stream
  rw [prepare_eq, Run.bind_apply_error (Run.ofLogged_apply_error h s)]

/-- **One request, answered in both ways, is the same request**, and the same turn is heard. -/
theorem ask_paired (h : ms.map Message.gist = ns.map Message.gist)
    (hapart : ∀ u ∈ script, Spoken.Apart u.spoken) (hs : Replying script s)
    (hs' : Streaming script s') (hbudget : s'.budget = none) (m : ChatModel)
    (arguments : List (String × Given)) (front : List Given) :
    (∃ e t t', m.bare.respond (front ++ Client.given ms) arguments s = (.error e, t) ∧
      m.bare.stream (front ++ Client.given ns) arguments s' = (.error e, t') ∧
      ∃ requests, Session.Paired s t s' t' requests []) ∨
    ∃ u rest r us t t', script = u :: rest ∧
      m.bare.respond (front ++ Client.given ms) arguments s = (.ok r, t) ∧
      m.bare.stream (front ++ Client.given ns) arguments s' = (.ok us, t') ∧
      (∃ request, Session.Paired s t s' t' [request] us) ∧ u.Heard r us ∧
      Replying rest t ∧ Streaming rest t' := by
  have hsame := prepared_congr m arguments h front
  cases hprepared : (m.prepared (front ++ Client.given ms) arguments).2 with
  | error f =>
      refine .inl ⟨_, _, _, respond_unprepared hprepared s,
        stream_unprepared (hsame ▸ hprepared) s', ?_⟩
      rw [hsame]
      exact ⟨[], .note s s' _⟩
  | ok prepared =>
      obtain ⟨id, request⟩ := prepared
      have hprepared' := hprepared
      rw [hsame] at hprepared'
      cases script with
      | nil =>
          obtain ⟨records, hno, hrespond⟩ := respond_exhausted hprepared
            (List.forall₂_nil_left_iff.mp hs)
          obtain ⟨records', t', hno', hstream, hadvances⟩ := stream_exhausted hprepared'
            (List.forall₂_nil_left_iff.mp hs')
          refine .inl ⟨_, _, t', hrespond, hstream, [request], records, records', ⟨rfl, rfl⟩,
            hadvances, ?_⟩
          rw [Record.aboutTools_eq_nil hno, Record.aboutTools_eq_nil hno']
      | cons u rest =>
          obtain ⟨reply, more, ⟨v, rfl, hreplied⟩, hmore, hreplies⟩ :=
            List.forall₂_cons_left_iff.mp hs
          obtain ⟨reply', more', ⟨events, closeable, rfl, hstreamed⟩, hmore', hreplies'⟩ :=
            List.forall₂_cons_left_iff.mp hs'
          obtain ⟨records, hno, hrespond⟩ := respond_answer hprepared hreplies
          obtain ⟨us, records', t', harrives, hno', hstream, hadvances, hrest⟩ :=
            stream_streamed hprepared' hreplies' hbudget hstreamed
          obtain ⟨r, hread, hgists, hmodel, hreason, counts, hcounts, husage⟩ :=
            read_isReply hreplied.said id
          rw [hread] at hrespond
          have hfinish : r.finishReason = some (.ofStopWord u.word) := by
            rw [Value.lookup_get? hreplied.stopped, Outcome.ok_bind] at hreason
            exact (Except.ok.inj hreason).symm
          obtain rfl : counts = u.counts := Except.ok.inj (hcounts.symm.trans hreplied.counted)
          refine .inr ⟨u, rest, r, us, _, t', rfl, hrespond, hstream,
            ⟨request, records, records', ⟨rfl, rfl⟩, hadvances, ?_⟩, ⟨hgists, husage, ?_, ?_⟩,
            hmore, ?_⟩
          · rw [Record.aboutTools_eq_nil hno, Record.aboutTools_eq_nil hno']
          · intro j hj
            rw [hfinish, hmodel]
            exact Response.Joined.adds_arrives harrives (hapart u (by simp))
              (prepared_id_ne hprepared) hj
          · rw [harrives.callsOf, Message.calls_spoken hgists]
          · unfold Streaming
            rwa [hrest]

end ChatModel

/-! ### The whole loop -/

/-- Two runs that end alike, after requests and updates: both with the same fault, or one with a
reply and the other with the updates.  The updates then add what the reply lists from `earlier` on,
and the counts of all turns that were taken, of which the reply has the last. -/
inductive Alike (script : List Utterance) (earlier : List Gist) (requests : List Document)
    (us : List Update) : Except Halt Response → Except Halt (List Update) → Prop
  | failed (e : Halt) : Alike script earlier requests us (.error e) (.error e)
  | answered (before : List Utterance) {rest : List Utterance} {last : Utterance} {r : Response}
      (more : List Gist)
      (hscript : script = before ++ last :: rest) (hasked : requests.length = before.length + 1)
      (hr : r.messages.map Message.gist = earlier ++ more) (husage : r.usage = some last.counts)
      (hus : ∀ j : Response.Joined, ReadyFor .assistant j.told →
        j.Adds (us.foldl Response.Joined.add j) more r.finishReason r.modelId
          ((before ++ [last]).flatMap Utterance.reported)) :
      Alike script earlier requests us (.ok r) (.ok us)

/-- Two runs that stay in step and end alike. -/
def Agree (script : List Utterance) (s s' : Session) (earlier : List Gist)
    (x : Except Halt Response × Session) (y : Except Halt (List Update) × Session) : Prop :=
  ∃ requests us, Session.Paired s x.2 s' y.2 requests us ∧
    Alike script earlier requests us x.1 y.1

namespace Alike

variable {script : List Utterance} {u : Utterance} {r : Response} {requests : List Document}
  {us vs : List Update}

/-- A turn that is heard in both ways ends a loop alike. -/
theorem heard (h : u.Heard r us) (earlier : List Message) (rest : List Utterance)
    (request : Document) :
    Alike (u :: rest) (earlier.map Message.gist) [request] us (.ok (Client.after earlier r))
      (.ok us) :=
  .answered [] _ rfl rfl (by rw [Client.after, List.map_append, h.gists]) h.usage
    fun j hj => by
      show j.Adds _ _ r.finishReason r.modelId _
      simpa using h.adds j hj

/-- **Runs that end alike after an exchange end alike with it in front.** -/
theorem exchange {earlier : List Gist} {x : Except Halt Response}
    {y : Except Halt (List Update)} {results : List Result}
    (hrest : Alike script (earlier ++ [(.assistant, u.spoken.map Spoken.body),
      (.tool, results.map Body.result)]) requests vs x y) (h : u.Heard r us) (request : Document) :
    Alike (u :: script) earlier (request :: requests) (us ++ Client.resultsUpdate results :: vs) x
      (y.map fun more => us ++ Client.resultsUpdate results :: more) := by
  cases hrest with
  | failed e => exact .failed e
  | answered before more hscript hasked hr husage hus =>
      refine .answered (u :: before) ((.assistant, u.spoken.map Spoken.body) ::
        (.tool, results.map Body.result) :: more) (by rw [hscript]; rfl) (by simp [hasked])
        (by rw [hr]; simp) husage fun j hj => ?_
      have hadds := h.adds j hj
      obtain ⟨htold, hkept⟩ := Response.Joined.add_results hadds.told results
      have hmore := hus _ (show ReadyFor .assistant
        ((us.foldl Response.Joined.add j).add (Client.resultsUpdate results)).told by
          rw [htold]
          intro g hg
          rw [← Option.some.inj hg]
          show Role.tool ≠ Role.assistant
          decide)
      rw [List.foldl_append, List.foldl_cons]
      refine ⟨?_, hmore.finishReason, hmore.modelId, ?_⟩
      · rw [hmore.told, htold, hadds.told]
        simp
      · rw [hmore.usage, hkept, hadds.usage, List.cons_append, List.flatMap_cons,
          List.foldl_append]

end Alike

/-- Runs that stay in step after an exchange stay in step with it in front. -/
theorem Agree.exchange {script : List Utterance} {s t s' t' : Session} {u : Utterance}
    {r : Response} {request : Document} {us : List Update} {results : List Result}
    {earlier : List Gist} {x : Except Halt Response × Session}
    {y : Except Halt (List Update) × Session}
    (hpaired : Session.Paired s t s' t' [request] (us ++ [Client.resultsUpdate results]))
    (hheard : u.Heard r us)
    (h : Agree script t t' (earlier ++ [(.assistant, u.spoken.map Spoken.body),
      (.tool, results.map Body.result)]) x y) :
    Agree (u :: script) s s' earlier x
      (y.1.map fun more => us ++ Client.resultsUpdate results :: more, y.2) := by
  obtain ⟨requests, vs, hmore, halike⟩ := h
  refine ⟨request :: requests, us ++ Client.resultsUpdate results :: vs, ?_,
    halike.exchange hheard request⟩
  simpa using hpaired.trans hmore

namespace ChatModel

/-- **Round by round the loop does the same for complete replies and for events.** -/
theorem loops_agree (m : ChatModel) (limit : Int) (arguments : List (String × Given))
    (front : List Given) (n : Nat) :
    ∀ (ms ns earlier : List Message) (script : List Utterance) (s s' : Session),
      ms.map Message.gist = ns.map Message.gist → (∀ u ∈ script, Spoken.Apart u.spoken) →
      Replying script s → Streaming script s' → s'.budget = none →
      Agree script s s' (earlier.map Message.gist)
        (Client.respondFrom m.bare limit arguments n (front ++ Client.given ms) earlier s)
        (Client.streamFrom m.bare limit arguments n (front ++ Client.given ns) s') := by
  induction n with
  | zero =>
      intro ms ns earlier script s s' h hapart hs hs' hbudget
      rw [Client.respondFrom_limit, Client.streamFrom_limit, Run.bind_pure_apply]
      have hnoted : Session.Paired s (Client.noteLimit limit s).2 s' (Client.noteLimit limit s').2
        [] [] := .note s s' _
      rcases ask_paired h hapart (show Replying script (Client.noteLimit limit s).2 from hs)
        (show Streaming script (Client.noteLimit limit s').2 from hs') hbudget m
        (Client.plain arguments) front with
        ⟨e, t, t', hrespond, hstream, requests, hpaired⟩ |
        ⟨u, rest, r, us, t, t', rfl, hrespond, hstream, ⟨request, hpaired⟩, hheard, -, -⟩
      · rw [hrespond, hstream]
        exact ⟨requests, [], hnoted.trans hpaired, .failed e⟩
      · rw [hrespond, hstream]
        exact ⟨[request], us, hnoted.trans hpaired, .heard hheard earlier rest request⟩
  | succ n ih =>
      intro ms ns earlier script s s' h hapart hs hs' hbudget
      rcases ask_paired h hapart hs hs' hbudget m arguments front with
        ⟨e, t, t', hrespond, hstream, requests, hpaired⟩ |
        ⟨u, rest, r, us, t, t', rfl, hrespond, hstream, ⟨request, hpaired⟩, hheard, hrest, hrest'⟩
      · rw [Client.respondFrom_error hrespond, Client.streamFrom_error hstream]
        exact ⟨requests, [], hpaired, .failed e⟩
      · by_cases hcalls : Message.calls r.messages = []
        · rw [Client.respondFrom_answered hrespond hcalls,
            Client.streamFrom_answered hstream (hheard.calls.trans hcalls)]
          exact ⟨[request], us, hpaired, .heard hheard earlier rest request⟩
        by_cases htools : m.bare.tools arguments = []
        · rw [Client.respondFrom_untooled hrespond htools,
            Client.streamFrom_untooled hstream htools]
          exact ⟨[request], us, hpaired, .heard hheard earlier rest request⟩
        have hcalls' : Client.callsOf us ≠ [] := hheard.calls.symm ▸ hcalls
        have hsaid : (Response.ofUpdates us).messages.map Message.gist =
            r.messages.map Message.gist := by
          rw [Response.gists_ofUpdates,
            (hheard.adds {} (by simp [ReadyFor, Response.Joined.told])).told,
            hheard.gists]
          rfl
        have hsame := Message.calls_congr hsaid
        have hran := Session.Paired.note t t'
          (Call.execute (Message.calls r.messages) (m.bare.tools arguments)).1
        cases hresults : (Call.execute (Message.calls r.messages) (m.bare.tools arguments)).2 with
        | error f =>
            rw [Client.respondFrom_broken hrespond hcalls htools hresults,
              Client.streamFrom_broken hstream hcalls' htools (hsame ▸ hresults), hsame]
            exact ⟨[request] ++ [], us ++ [], hpaired.trans hran, .failed _⟩
        | ok results =>
            have hbudget' : t'.budget = none := hpaired.budget.trans hbudget
            rw [Client.respondFrom_executed hrespond hcalls htools hresults,
              Client.streamFrom_executed hstream hcalls' htools hbudget' (hsame ▸ hresults), hsame,
              List.append_assoc, List.append_assoc, ← Wire.given_append, ← Wire.given_append]
            have hpaired' := (hpaired.trans hran).trans
              (.receive _ _ [Client.resultsUpdate results])
            rw [List.append_nil, List.append_nil, List.append_nil] at hpaired'
            refine .exchange hpaired' hheard ?_
            have hgists : (earlier ++ (r.messages ++ [Message.ofResults results])).map
                Message.gist = earlier.map Message.gist ++
                  [(.assistant, u.spoken.map Spoken.body), (.tool, results.map Body.result)] :=
              Message.gists_exchange (e := ⟨u.spoken, results⟩) earlier hheard.gists
            rw [← hgists]
            exact ih _ _ _ rest _ _ (by simp only [List.map_append, h, hsaid])
              (fun v hv => hapart v (by simp [hv])) hrest hrest' hbudget'

end ChatModel

/-- Two replies with the same messages, text, reason to stop and model, whatever else is known of
them. -/
structure Response.Same (a b : Response) : Prop where
  gists : a.messages.map Message.gist = b.messages.map Message.gist
  text : a.text = b.text
  finishReason : a.finishReason = b.finishReason
  modelId : a.modelId = b.modelId

theorem Response.text_congr {a b : Response}
    (h : a.messages.map Message.gist = b.messages.map Message.gist) : a.text = b.text := by
  have hall := forall₂_of_map_eq h
  have htexts : a.messages.map Message.text = b.messages.map Message.text := by
    rw [← List.forall₂_eq_eq_eq, List.forall₂_map_left_iff, List.forall₂_map_right_iff]
    exact hall.imp fun _ _ => Message.text_congr
  unfold text
  rw [htexts]

namespace ChatModel

/-- **Complete replies and streams agree.**  Whatever the model says, and however its texts and the
inputs of its calls are cut up, the run on complete replies and the run on events send the same
requests and note the same about tools.  They end with the same fault, or the updates that the
consumer got make the reply that the other run gives.  Only the counts are not the same: the updates
bring those of all turns that were taken together, and the reply has those of the last one.  The
input of a call is an object that can be read from the text that the stream cuts up: no number in it
is too long and no list too deep to be read. -/
theorem respond_stream_agree {script : List Utterance} {s s' : Session}
    (hapart : ∀ u ∈ script, Spoken.Apart u.spoken) (hs : Replying script s)
    (hs' : Streaming script s') (hbudget : s'.budget = none) (m : ChatModel) (limit : Int)
    (messages : List Given) (arguments : List (String × Given)) :
    ∃ result t result' t' requests records,
      (m.bare.looped limit).respond messages arguments s = (result, t) ∧
      (m.bare.looped limit).stream messages arguments s' = (result', t') ∧
      t.requests = s.requests ++ requests ∧ t'.requests = s'.requests ++ requests ∧
      Record.aboutTools t.log = Record.aboutTools s.log ++ records ∧
      Record.aboutTools t'.log = Record.aboutTools s'.log ++ records ∧
      ((∃ e, result = .error e ∧ result' = .error e) ∨
        ∃ r us, result = .ok r ∧ result' = .ok us ∧ t'.received = s'.received ++ us ∧
          Response.Same r (Response.ofUpdates us) ∧
          ∃ before last rest, script = before ++ last :: rest ∧
            requests.length = before.length + 1 ∧ r.usage = some last.counts ∧
            (Response.ofUpdates us).usage =
              ((before ++ [last]).flatMap Utterance.reported).foldl Usage.gather none) := by
  by_cases henter : Client.misnamed? arguments = none ∧
      ∃ vs, Message.prepare (.list messages) = .ok vs
  · obtain ⟨hnamed, front, hfront⟩ := henter
    have hagree := loops_agree m limit arguments front limit.toNat [] [] [] script s s' rfl hapart
      hs hs' hbudget
    rw [show front ++ Client.given [] = front from List.append_nil front] at hagree
    rcases hx : Client.respondFrom m.bare limit arguments limit.toNat front [] s with ⟨x, t⟩
    rcases hy : Client.streamFrom m.bare limit arguments limit.toNat front s' with ⟨y, t'⟩
    rw [hx, hy] at hagree
    obtain ⟨requests, us, ⟨records, records', hgrows, hadvances, htools⟩, halike⟩ := hagree
    refine ⟨x, t, y, t', requests, Record.aboutTools records,
      (Client.respond_looped hnamed hfront).trans hx, (Client.stream_looped hnamed hfront).trans hy,
      hgrows.requests, hadvances.requests, ?_, ?_, ?_⟩
    · rw [hgrows.log, Record.aboutTools_append]
    · rw [hadvances.log, Record.aboutTools_append, htools]
    · dsimp only at halike
      cases halike with
      | failed e => exact .inl ⟨e, rfl, rfl⟩
      | @answered before rest last r more hscript hasked hr husage hus =>
          have hadds := hus {} (by simp [ReadyFor, Response.Joined.told])
          have hgists : r.messages.map Message.gist =
              (Response.ofUpdates us).messages.map Message.gist := by
            rw [hr, Response.gists_ofUpdates, hadds.told]
            simp [Response.Joined.told]
          exact .inr ⟨r, us, rfl, rfl, hadvances.received,
            ⟨hgists, Response.text_congr hgists, hadds.finishReason.symm, hadds.modelId.symm⟩,
            before, last, rest, hscript, hasked, husage, hadds.usage⟩
  · rw [not_and_or, not_exists] at henter
    obtain ⟨f, hrefused⟩ := Client.looped_refused m.bare limit henter
    exact ⟨_, _, _, _, [], [], (hrefused s).1, (hrefused s').2, by simp, by simp, by simp, by simp,
      .inl ⟨_, rfl, rfl⟩⟩

/-- A tool that gives back what it is told. -/
def repeater : Tool where
  name := "repeat"
  function := { name := "repeat", parameters := [{ name := "v" }] }

/-- A turn that says something and calls the tool. -/
def calling : Utterance :=
  { spoken := [.text "Just a moment.", .call "t1" "repeat" [("v", .str "x")]]
    word := "tool_use", reports := false }

/-- A turn that ends the run. -/
def finishing : Utterance := { spoken := [.text "Done."], word := "end_turn", reports := false }

/-- The two turns as replies. -/
def repliesReady : Session where
  replies := [calling, finishing].map fun u => .answer (plainReply u.spoken u.word)

/-- The two turns as streams, with the text and the input of the first one cut in two. -/
def streamsReady : Session where
  replies := [
    .stream ((calling.events [(Spoken.text "Just a moment.").events 0 ["Just a ", "moment."],
      (Spoken.call "t1" "repeat" [("v", .str "x")]).events 1
        ["\x7b\"v\"", ": \"x\"\x7d"]]).map .event) true,
    .stream ((finishing.events [(Spoken.text "Done.").events 0 ["Done."]]).map .event) false]

theorem replying_repliesReady : Replying [calling, finishing] repliesReady := by
  have hreplied (xs : List Spoken) (word : String) : Utterance.Replied
      { spoken := xs, word, reports := false } (Attachment.document (plainReply xs word)) :=
    ⟨isReply_plainReply xs word, by rw [document_plainReply]; rfl, by rw [document_plainReply]; rfl⟩
  exact .cons ⟨_, rfl, hreplied _ _⟩ (.cons ⟨_, rfl, hreplied _ _⟩ .nil)

theorem streaming_streamsReady : Streaming [calling, finishing] streamsReady := by
  have hinput : Json.parse (String.join ["\x7b\"v\"", ": \"x\"\x7d"]) =
      .ok (.obj [("v", .str "x")] : Document) := Json.parse_eq_single (by decide +kernel)
  refine .cons ⟨_, _, rfl, Utterance.streamed_events ?_ rfl⟩
    (.cons ⟨_, _, rfl, Utterance.streamed_events ?_ rfl⟩ .nil)
  · exact .cons (Spoken.carried_text 0 (by simp) (by decide))
      (.cons (Spoken.carried_call 1 _ _ hinput) .nil)
  · exact .cons (Spoken.carried_text 0 (by simp) (by decide)) .nil

/-- Both ways two requests are sent, and the updates make the reply. -/
theorem repeater_agrees :
    ∃ r t us t', (bareHosted.bare.looped 10).respond [.str "Hi."]
        [("tools", .list [.leaf (.tool repeater)])] repliesReady = (.ok r, t) ∧
      (bareHosted.bare.looped 10).stream [.str "Hi."]
        [("tools", .list [.leaf (.tool repeater)])] streamsReady = (.ok us, t') ∧
      t.requests.length = 2 ∧ t'.requests = t.requests ∧ t'.received = us ∧
      Response.Same r (Response.ofUpdates us) := by
  have hends : (((bareHosted.bare.looped 10).respond [.str "Hi."]
      [("tools", .list [.leaf (.tool repeater)])] repliesReady).1.isOk,
      ((bareHosted.bare.looped 10).respond [.str "Hi."]
      [("tools", .list [.leaf (.tool repeater)])] repliesReady).2.requests.length) = (true, 2) := by
    decide +kernel
  have hapart : ∀ u ∈ [calling, finishing], Spoken.Apart u.spoken := by
    intro u hu
    rcases List.mem_cons.mp hu with rfl | hu
    · exact .cons_cons (.inr rfl) (.singleton _)
    · rw [List.mem_singleton.mp hu]
      exact .singleton _
  obtain ⟨result, t, result', t', requests, records, hrespond, hstream, hsent, hsent', -, -,
      hend⟩ :=
    respond_stream_agree hapart replying_repliesReady streaming_streamsReady rfl bareHosted 10
      [.str "Hi."] [("tools", .list [.leaf (.tool repeater)])]
  rw [hrespond] at hends
  rcases hend with ⟨e, rfl, -⟩ | ⟨r, us, rfl, rfl, hreceived, hsame, -⟩
  · simp [Except.isOk, Except.toBool] at hends
  · exact ⟨r, t, us, t', hrespond, hstream, (Prod.mk.inj hends).2, hsent'.trans hsent.symm,
      hreceived, hsame⟩

end ChatModel

end Parley
