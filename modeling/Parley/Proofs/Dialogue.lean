/-
A whole dialogue with tools.

The loop keeps three lists of messages in step: those of the next request, those
that were sent before, and those of the answer it will give.  `Dialogue` says what
a run comes to: which exchanges there were, what each request held, and how it
ended.  The one fact that carries the induction is that the messages of a round are
the first ones followed by the exchanges so far, so a dialogue that goes on after
an exchange is a dialogue whose first messages are longer by that exchange.

A run may also break off, in one of two places.  The check of a call's arguments may
end with a fault that is not told as a result, and the messages for the plain answer
may hold a number that is too long to be told.  `BreaksOff` says of a script that its
run comes to such a place; every other run is a dialogue.
-/
import Parley.Proofs.Execution
import Parley.Proofs.Loop
import Parley.Proofs.Options
import Parley.Proofs.Results
import Parley.Proofs.Service

namespace Parley

/-- One turn of a model that calls, and the results of its calls. -/
structure Exchange where
  spoken : List Spoken
  results : List Result

namespace Exchange

/-- The calls of a turn, in order. -/
def calls (e : Exchange) : List Call := e.spoken.filterMap Spoken.call?

/-- The messages of an exchange as the service sees them: what the assistant said, and one message
of the user with a result for each call. -/
def messages (e : Exchange) : List Document :=
  [Wire.message (.str "assistant") (e.spoken.map Spoken.block),
    Wire.message (.str "user") (e.results.map Block.toolResult)]

/-- The messages of an exchange as a reply lists them. -/
def gists (e : Exchange) : List Gist :=
  [(.assistant, e.spoken.map Spoken.body), (.tool, e.results.map Body.result)]

/-- An exchange in which there are calls, and each has the result of running it. -/
structure Follows (tools : List (String × Tool)) (e : Exchange) : Prop where
  calling : e.calls ≠ []
  ran : List.Forall₂ (fun c r => (Call.run tools c).2 = .ok r) e.calls e.results
  ids : e.results.map Result.id = e.calls.map Call.id

variable {tools : List (String × Tool)} {e e' : Exchange}

/-- The results of an exchange can be written. -/
theorem Follows.writable (h : e.Follows tools) :
    ∀ r ∈ e.results, Block.checkResult r.value = .ok () := by
  intro r hr
  obtain ⟨c, -, hrun⟩ := exists_mem_of_forall₂ h.ran.flip hr
  exact Wire.checkResult_writable (Call.run_writable hrun)

/-- Of what a model says, only one exchange can come. -/
theorem Follows.unique (h : e.Follows tools) (h' : e'.Follows tools)
    (hspoken : e.spoken = e'.spoken) : e = e' := by
  have hresults : ∀ {calls : List Call} {rs rs' : List Result},
      List.Forall₂ (fun c r => (Call.run tools c).2 = .ok r) calls rs →
      List.Forall₂ (fun c r => (Call.run tools c).2 = .ok r) calls rs' → rs = rs' := by
    intro calls rs rs' hrs hrs'
    exact Except.ok.inj ((Outcome.mapM_ok.mpr hrs).symm.trans (Outcome.mapM_ok.mpr hrs'))
  obtain ⟨spoken, results⟩ := e
  obtain ⟨spoken', results'⟩ := e'
  obtain rfl : spoken = spoken' := hspoken
  rw [show results = results' from hresults h.ran h'.ran]

end Exchange

/-- Exchanges that a script leads to: its turns in their order, each with the results of its calls
behind it. -/
structure Leads (tools : List (String × Tool)) (script : List (List Spoken))
    (es : List Exchange) : Prop where
  said : es.map Exchange.spoken = script.take es.length
  follows : ∀ e ∈ es, e.Follows tools

/-- Messages with exchanges behind them. -/
def history (first : List Document) (es : List Exchange) : List Document :=
  first ++ es.flatMap Exchange.messages

/-- Messages behind which an exchange is told. -/
theorem Message.gists_exchange {said : List Message} {e : Exchange} (earlier : List Message)
    (h : said.map gist = [(.assistant, e.spoken.map Spoken.body)]) :
    (earlier ++ (said ++ [ofResults e.results])).map gist = earlier.map gist ++ e.gists := by
  rw [List.map_append, List.map_append, h]
  simp [Exchange.gists, gist, ofResults, Content.ofResult, Function.comp_def]

/-- A conversation with exchanges behind it. -/
def Wire.Conversation.extended (c : Wire.Conversation) (es : List Exchange) : Wire.Conversation :=
  { c with messages := history c.messages es }

/-- The fault of a script that holds no further reply. -/
def noReply : Halt := .fault (.runtime "script exhausted")

/-- A reply that lists the exchanges and, behind them, what was said last. -/
def Answers (before : List Gist) (es : List Exchange) (last : List Spoken)
    (result : Except Halt Response) : Prop :=
  ∃ r, result = .ok r ∧ r.messages.map Message.gist =
    before ++ es.flatMap Exchange.gists ++ [(.assistant, last.map Spoken.body)]

/-- How a dialogue ends before the rounds are over: with the first turn that calls nothing, or for
want of a reply. -/
def EndsEarly (before : List Gist) (es : List Exchange) (next : Option (List Spoken))
    (result : Except Halt Response) : Prop :=
  match next with
  | none => result = .error noReply
  | some xs => xs.filterMap Spoken.call? = [] ∧ Answers before es xs result

/-- How a dialogue ends when the rounds are over: with one more turn, whatever it says. -/
def EndsLate (before : List Gist) (es : List Exchange) (next : Option (List Spoken))
    (result : Except Halt Response) : Prop :=
  match next with
  | none => result = .error noReply
  | some xs => Answers before es xs result

/-- The request of a round: the messages as they are, beside whatever the options ask for. -/
structure RoundRequest (c : Wire.Conversation) (o : Options) (id : String) (request : Document) :
    Prop where
  made : Wire.requestOf c o id = .ok request
  messages : Wire.messagesIn request = c.messages

/-- The request for a plain answer: the messages told without tools, none of which is offered. -/
structure PlainRequest (c : Wire.Conversation) (o : Options) (id : String) (request : Document) :
    Prop where
  made : Wire.requestOf c o.plain id = .ok request
  messages : Wire.flatten c.messages = .ok (Wire.messagesIn request)
  unoffered : Wire.offersTools request = false
  unmentioned : Wire.mentionsTools request = false

/-- The rounds of a run: the exchanges that the script leads to, and a request before each of them
and behind the last, unless the rounds are over. -/
structure Rounds (tools : List (String × Tool)) (o : Options) (id : String)
    (c : Wire.Conversation) (n : Nat) (script : List (List Spoken)) (es : List Exchange)
    (requests : List Document) : Prop extends Leads tools script es where
  short : es.length ≤ n
  asked : ∀ j, j < n → j ≤ es.length →
    ∃ r, requests[j]? = some r ∧ RoundRequest (c.extended (es.take j)) o id r

/-- What a run of at most `n` rounds on a script comes to. -/
structure Dialogue (tools : List (String × Tool)) (o : Options) (id : String)
    (c : Wire.Conversation) (before : List Gist) (n : Nat) (script : List (List Spoken))
    (es : List Exchange) (requests : List Document) (result : Except Halt Response) : Prop
    extends Rounds tools o id c n script es requests where
  ending :
    (es.length < n ∧ requests.length = es.length + 1 ∧
      EndsEarly before es script[es.length]? result) ∨
    (es.length = n ∧ requests.length = n + 1 ∧
      (∃ r, requests[n]? = some r ∧ PlainRequest (c.extended es) o id r) ∧
      EndsLate before es script[n]? result)

/-- The places where a run breaks off: at a call whose arguments cannot be checked, or at messages
that cannot be told without tools when the rounds are over. -/
inductive BreaksOff (tools : List (String × Tool)) (c : Wire.Conversation) (n : Nat)
    (script : List (List Spoken)) (es : List Exchange) (f : Fault) : Prop
  | unchecked {xs : List Spoken} {call : Call} {t : Tool} (hes : Leads tools script es)
      (hshort : es.length < n) (hnext : script[es.length]? = some xs)
      (hcall : call ∈ xs.filterMap Spoken.call?) (ht : Entries.get? tools call.name = some t)
      (hcheck : call.checkedArguments t = .error f) (hbad : f.isBadValue = false)
  | untold (hes : Leads tools script es) (hlen : es.length = n)
      (hflat : Wire.flatten (c.extended es).messages = .error f)

/-- A run that breaks off, with the requests that it has sent by then. -/
structure Broken (tools : List (String × Tool)) (o : Options) (id : String)
    (c : Wire.Conversation) (n : Nat) (script : List (List Spoken)) (es : List Exchange)
    (requests : List Document) (f : Fault) : Prop
    extends Rounds tools o id c n script es requests where
  breaks : BreaksOff tools c n script es f
  sent : requests.length = min n (es.length + 1)

/-! ### What a script leads to -/

namespace Leads

variable {tools : List (String × Tool)} {script : List (List Spoken)} {es es' : List Exchange}

theorem nil : Leads tools script [] := ⟨rfl, by simp⟩

theorem cons {e : Exchange} (he : e.Follows tools) (h : Leads tools script es) :
    Leads tools (e.spoken :: script) (e :: es) :=
  ⟨by simp [h.said], by simpa using ⟨he, h.follows⟩⟩

/-- Each exchange stands behind its turn of the script. -/
theorem turn (h : Leads tools script es) {i : Nat} (hi : i < es.length) :
    script[i]? = some es[i].spoken ∧ es[i].Follows tools := by
  refine ⟨?_, h.follows _ (List.getElem_mem hi)⟩
  have hturn := congrArg (fun l => l[i]?) h.said
  simpa [List.getElem?_take_of_lt hi, hi] using hturn.symm

/-- A script leads to one exchange at each turn, so of two runs one goes on where the other ends. -/
theorem eq_of_length (h : Leads tools script es) (h' : Leads tools script es')
    (hlen : es.length = es'.length) : es = es' := by
  refine List.ext_getElem hlen fun i hi hi' => ?_
  obtain ⟨hturn, hfollows⟩ := h.turn hi
  obtain ⟨hturn', hfollows'⟩ := h'.turn hi'
  exact hfollows.unique hfollows' (Option.some.inj (hturn.symm.trans hturn'))

end Leads

/-! ### Messages of a dialogue -/

namespace Wire

theorem extended_nil (c : Conversation) : c.extended [] = c := by
  simp [Conversation.extended, history]

theorem extended_cons (c : Conversation) (e : Exchange) (es : List Exchange) :
    c.extended (e :: es) = (c.extended [e]).extended es := by
  simp [Conversation.extended, history]

/-- What a model said and the results of its calls are written behind the messages so far. -/
theorem conversation_exchange {ms said : List Message} {c : Conversation}
    (h : conversation ms = .ok c) {e : Exchange}
    (hsaid : said.map Message.gist = [(.assistant, e.spoken.map Spoken.body)])
    (hresults : ∀ r ∈ e.results, Block.checkResult r.value = .ok ()) :
    conversation (ms ++ (said ++ [Message.ofResults e.results])) = .ok (c.extended [e]) := by
  have hone : conversation said =
      .ok ⟨[message (.str "assistant") (e.spoken.map Spoken.block)], []⟩ := by
    obtain ⟨m, rfl, hm⟩ := List.map_eq_singleton_iff.mp hsaid
    obtain ⟨hrole, hbodies⟩ := Prod.mk.inj hm
    unfold conversation blocksOf Conversation.cons
    rw [Block.ofContents_spoken hbodies, hrole]
    rfl
  have htold : conversation [Message.ofResults e.results] =
      .ok ⟨[message (.str "user") (e.results.map Block.toolResult)], []⟩ := by
    have hblocks : Block.ofContents (e.results.map Content.ofResult) =
        .ok (e.results.map Block.toolResult) :=
      ofContents_results (by simp [Content.ofResult, Function.comp_def]) hresults
    unfold conversation blocksOf
    rw [Message.ofResults, hblocks]
    rfl
  rw [conversation_append, h, Outcome.ok_bind, conversation_append, hone, Outcome.ok_bind, htold,
    Outcome.ok_bind, Outcome.ok_bind]
  simp [Conversation.append, Conversation.extended, history, Exchange.messages]

/-- A plain answer can be asked for after messages that can be told without tools. -/
theorem plainRequest_exists {ms : List Message} {c : Conversation} {flat : List Document}
    (h : conversation ms = .ok c) (hflat : flatten c.messages = .ok flat) (o : Options)
    (id : String) : ∃ r, PlainRequest c o id r := by
  have hno := flatten_written (conversation_messages h) hflat
  obtain ⟨r, hr⟩ := exists_requestOf_off o.toolsOff_plain hflat id
  obtain ⟨hmessages, hconfig⟩ := requestOf_off o.toolsOff_plain hr
  obtain rfl : flat = messagesIn r := Except.ok.inj (hflat.symm.trans hmessages)
  refine ⟨r, hr, hmessages, ?_, ?_⟩
  · unfold offersTools
    rw [hconfig]
    rfl
  · unfold mentionsTools
    rw [List.any_eq_false]
    exact fun d hd => by simp [hno d hd]

end Wire

/-! ### One round -/

section

variable {tools : List (String × Tool)} {o : Options} {id : String} {c : Wire.Conversation}
  {before : List Gist} {n : Nat} {script : List (List Spoken)} {result : Except Halt Response}
  {e : Exchange} {es es' : List Exchange} {request : Document} {requests : List Document}
  {f : Fault}

namespace Rounds

/-- One request before any exchange. -/
theorem one (h : RoundRequest c o id request) :
    Rounds tools o id c (n + 1) script [] [request] where
  toLeads := .nil
  short := Nat.zero_le _
  asked := fun j _ hj => by
    obtain rfl : j = 0 := by simpa using hj
    exact ⟨request, rfl, by rwa [List.take_nil, Wire.extended_nil]⟩

/-- No round at all. -/
theorem of_zero : Rounds tools o id c 0 script [] requests where
  toLeads := .nil
  short := Nat.le_refl _
  asked := fun j hj => absurd hj (Nat.not_lt_zero j)

/-- **Rounds that go on after an exchange are rounds with that exchange in front.** -/
theorem cons (he : e.Follows tools) (hr : RoundRequest c o id request)
    (h : Rounds tools o id (c.extended [e]) n script es requests) :
    Rounds tools o id c (n + 1) (e.spoken :: script) (e :: es) (request :: requests) where
  toLeads := h.toLeads.cons he
  short := Nat.succ_le_succ h.short
  asked := fun j hj hlen => by
    cases j with
    | zero => exact ⟨request, rfl, by rwa [List.take_zero, Wire.extended_nil]⟩
    | succ j =>
        obtain ⟨r, hget, hmade⟩ := h.asked j (by omega) (by simpa using hlen)
        exact ⟨r, hget, by rwa [List.take_succ_cons, Wire.extended_cons]⟩

end Rounds

namespace Dialogue

/-- A dialogue without exchanges, of one request. -/
theorem of_early (h : RoundRequest c o id request)
    (hend : EndsEarly before [] script[0]? result) :
    Dialogue tools o id c before (n + 1) script [] [request] result :=
  ⟨.one h, .inl ⟨n.succ_pos, rfl, hend⟩⟩

/-- A dialogue whose rounds are over. -/
theorem of_late (h : PlainRequest c o id request)
    (hend : EndsLate before [] script[0]? result) :
    Dialogue tools o id c before 0 script [] [request] result :=
  ⟨.of_zero, .inr ⟨rfl, rfl, ⟨request, rfl, by rwa [Wire.extended_nil]⟩, hend⟩⟩

theorem answers_cons {last : List Spoken} (h : Answers (before ++ e.gists) es last result) :
    Answers before (e :: es) last result := by
  obtain ⟨r, rfl, hr⟩ := h
  exact ⟨r, rfl, by rw [hr, List.flatMap_cons]; simp only [List.append_assoc]⟩

theorem endsEarly_cons {next : Option (List Spoken)}
    (h : EndsEarly (before ++ e.gists) es next result) :
    EndsEarly before (e :: es) next result := by
  cases next with
  | none => exact h
  | some xs => exact ⟨h.1, answers_cons h.2⟩

theorem endsLate_cons {next : Option (List Spoken)}
    (h : EndsLate (before ++ e.gists) es next result) :
    EndsLate before (e :: es) next result := by
  cases next with
  | none => exact h
  | some xs => exact answers_cons h

/-- **A dialogue that goes on after an exchange is a dialogue with that exchange in front.** -/
theorem cons (he : e.Follows tools) (hr : RoundRequest c o id request)
    (h : Dialogue tools o id (c.extended [e]) (before ++ e.gists) n script es requests result) :
    Dialogue tools o id c before (n + 1) (e.spoken :: script) (e :: es) (request :: requests)
      result where
  toRounds := h.toRounds.cons he hr
  ending := by
    rcases h.ending with ⟨hlt, hlen, hend⟩ | ⟨heq, hlen, ⟨r, hget, hplain⟩, hend⟩
    · refine .inl ⟨by simpa using hlt, by simp [hlen], ?_⟩
      rw [List.length_cons, List.getElem?_cons_succ]
      exact endsEarly_cons hend
    · refine .inr ⟨by simp [heq], by simp [hlen], ⟨r, hget, by rwa [Wire.extended_cons]⟩, ?_⟩
      rw [List.getElem?_cons_succ]
      exact endsLate_cons hend

/-- A dialogue has not ended before the last turn that calls. -/
theorem length_le (h : Dialogue tools o id c before n script es requests result)
    (h' : Leads tools script es') (hshort : es'.length ≤ n) : es'.length ≤ es.length := by
  by_contra hlt
  obtain ⟨hturn, hfollows⟩ := h'.turn (Nat.lt_of_not_le hlt)
  rcases h.ending with ⟨-, -, hend⟩ | ⟨hlen, -⟩
  · rw [hturn] at hend
    exact hfollows.calling hend.1
  · omega

/-- **A dialogue does not break off.** -/
theorem not_breaksOff (h : Dialogue tools o id c before n script es requests result) :
    ¬ BreaksOff tools c n script es' f := by
  rintro (@⟨xs, call, t, hes, hshort, hnext, hcall, ht, hcheck, hbad⟩ | ⟨hes, hlen, hflat⟩)
  · rcases Nat.lt_or_eq_of_le (h.length_le hes (Nat.le_of_lt hshort)) with hlt | heq
    · -- The dialogue goes on behind the turn, so its calls have been run.
      obtain ⟨hturn, hfollows⟩ := h.toLeads.turn hlt
      obtain rfl : xs = es[es'.length].spoken := Option.some.inj (hnext.symm.trans hturn)
      obtain ⟨r, -, hrun⟩ := exists_mem_of_forall₂ hfollows.ran hcall
      rw [Call.run_breaks ht hcheck hbad] at hrun
      cases hrun
    · rcases h.ending with ⟨-, -, hend⟩ | ⟨hover, -⟩
      · rw [← heq, hnext] at hend
        rw [hend.1] at hcall
        cases hcall
      · omega
  · have hlonger := h.length_le hes (Nat.le_of_eq hlen)
    have hbound := h.short
    obtain rfl := h.toLeads.eq_of_length hes (by omega)
    rcases h.ending with ⟨hlt, -⟩ | ⟨-, -, ⟨r, -, hplain⟩, -⟩
    · omega
    · exact absurd (hflat.symm.trans hplain.messages) (by simp)

end Dialogue

namespace Broken

/-- A run that breaks off after one request. -/
theorem of_unchecked {xs : List Spoken} {call : Call} {t : Tool} (h : RoundRequest c o id request)
    (hcall : call ∈ xs.filterMap Spoken.call?) (ht : Entries.get? tools call.name = some t)
    (hcheck : call.checkedArguments t = .error f) (hbad : f.isBadValue = false) :
    Broken tools o id c (n + 1) (xs :: script) [] [request] f where
  toRounds := .one h
  breaks := .unchecked .nil n.succ_pos rfl hcall ht hcheck hbad
  sent := by simp

/-- A run that breaks off when the rounds are over. -/
theorem of_untold (h : Wire.flatten c.messages = .error f) :
    Broken tools o id c 0 script [] [] f where
  toRounds := .of_zero
  breaks := .untold .nil rfl (by rwa [Wire.extended_nil])
  sent := rfl

/-- A run that breaks off after an exchange is one with that exchange in front. -/
theorem cons (he : e.Follows tools) (hr : RoundRequest c o id request)
    (h : Broken tools o id (c.extended [e]) n script es requests f) :
    Broken tools o id c (n + 1) (e.spoken :: script) (e :: es) (request :: requests) f where
  toRounds := h.toRounds.cons he hr
  breaks := by
    rcases h.breaks with ⟨hes, hshort, hnext, hcall, ht, hcheck, hbad⟩ | ⟨hes, hlen, hflat⟩
    · exact .unchecked (hes.cons he) (Nat.succ_lt_succ hshort)
        (by rwa [List.length_cons, List.getElem?_cons_succ]) hcall ht hcheck hbad
    · exact .untold (hes.cons he) (congrArg Nat.succ hlen) (by rwa [Wire.extended_cons])
  sent := by
    rw [List.length_cons, List.length_cons, h.sent]
    omega

end Broken

/-- What a run comes to: a dialogue, or the fault with which it breaks off. -/
def Concludes (tools : List (String × Tool)) (o : Options) (id : String) (c : Wire.Conversation)
    (before : List Gist) (n : Nat) (script : List (List Spoken)) (s : Session)
    (run : Except Halt Response × Session) : Prop :=
  ∃ es requests, run.2.requests = s.requests ++ requests ∧
    (Dialogue tools o id c before n script es requests run.1 ∨
      ∃ f, Broken tools o id c n script es requests f ∧ run.1 = .error (.fault f))

/-- **A run that goes on after an exchange comes to the same with that exchange in front.** -/
theorem Concludes.cons {s t : Session} {run : Except Halt Response × Session}
    (he : e.Follows tools) (hr : RoundRequest c o id request)
    (ht : t.requests = s.requests ++ [request])
    (h : Concludes tools o id (c.extended [e]) (before ++ e.gists) n script t run) :
    Concludes tools o id c before (n + 1) (e.spoken :: script) s run := by
  obtain ⟨es, requests, hrequests, hends⟩ := h
  refine ⟨e :: es, request :: requests, by simp [hrequests, ht], ?_⟩
  rcases hends with hdialogue | ⟨f, hbroken, hresult⟩
  · exact .inl (.cons he hr hdialogue)
  · exact .inr ⟨f, hbroken.cons he hr, hresult⟩

end

/-! ### All rounds -/

namespace ChatModel

variable {m : ChatModel} {arguments : List (String × Given)} {o : Options} {id : String}
  {tools : List (String × Tool)}

/-- What the session still has to answer: a reply for each turn of the script. -/
def Answering (script : List (List Spoken)) (s : Session) : Prop :=
  ∃ replies : List (Value Attachment), s.replies = replies.map .answer ∧
    List.Forall₂ (fun xs v => IsReply (Attachment.document v) xs) script replies

/-- One request on such a session: its answer says the next turn. -/
theorem respond_answering {ms : List Message} {c : Wire.Conversation} {request : Document}
    {script : List (List Spoken)} {s : Session} {arguments : List (String × Given)} {o : Options}
    (ho : m.options arguments = .ok o) (hid : m.modelIdFor o = .ok id)
    (hconv : Wire.conversation ms = .ok c) (hne : c.messages ≠ [])
    (hr : Wire.requestOf c o id = .ok request) (hs : Answering script s) :
    ∃ t, t.requests = s.requests ++ [request] ∧
      match script with
      | [] => m.bare.respond (Client.given ms) arguments s = (.error noReply, t)
      | xs :: rest => ∃ r, m.bare.respond (Client.given ms) arguments s = (.ok r, t) ∧
          r.messages.map Message.gist = [(.assistant, xs.map Spoken.body)] ∧ Answering rest t := by
  have hprepared := (prepared_given ho hid hconv hne).trans (Outcome.map_ok.mpr ⟨_, hr, rfl⟩)
  obtain ⟨replies, hreplies, hsays⟩ := hs
  cases hsays with
  | nil =>
      obtain ⟨records, -, hrespond⟩ := respond_exhausted hprepared hreplies
      exact ⟨_, rfl, hrespond⟩
  | @cons xs v rest more hv hmore =>
      obtain ⟨records, -, hrespond⟩ := respond_answer hprepared hreplies
      obtain ⟨r, hread, hgists, -⟩ := read_isReply hv id
      rw [hread] at hrespond
      exact ⟨_, rfl, r, hrespond, hgists, more, rfl, hmore⟩

theorem answers_last {r : Response} {xs : List Spoken} (earlier : List Message)
    (hgists : r.messages.map Message.gist = [(.assistant, xs.map Spoken.body)]) :
    Answers (earlier.map Message.gist) [] xs (.ok (Client.after earlier r)) :=
  ⟨_, rfl, by simp [Client.after, hgists]⟩

/-- When the rounds are over there is one more request, unless the messages cannot do without
tools. -/
theorem respondFrom_over (limit : Int) (hd : (arguments.map Prod.fst).Nodup)
    (ho : m.options arguments = .ok o) (hid : m.modelIdFor o = .ok id) {ms : List Message}
    {c : Wire.Conversation} (earlier : List Message) {script : List (List Spoken)} {s : Session}
    (hconv : Wire.conversation ms = .ok c) (hne : c.messages ≠ []) (hs : Answering script s) :
    Concludes tools o id c (earlier.map Message.gist) 0 script s
      (Client.respondFrom m.bare limit arguments 0 (Client.given ms) earlier s) := by
  rw [Client.respondFrom_limit]
  have hs' : Answering script (Client.noteLimit limit s).2 := hs
  have hprepared := prepared_given (options_plain hd ho) hid hconv hne
  cases hflat : Wire.flatten c.messages with
  | error f =>
      rw [Wire.requestOf_unflat o.toolsOff_plain hflat] at hprepared
      obtain ⟨t, hrespond, ht⟩ : ∃ t : Session,
          m.bare.respond (Client.given ms) (Client.plain arguments) (Client.noteLimit limit s).2 =
            (.error (.fault f), t) ∧ t.requests = s.requests :=
        ⟨_, respond_unprepared hprepared _, rfl⟩
      rw [Run.bind_apply_error hrespond]
      exact ⟨[], [], by simp [ht], .inr ⟨f, .of_untold hflat, rfl⟩⟩
  | ok flat =>
      obtain ⟨p, hplain⟩ := Wire.plainRequest_exists hconv hflat o id
      obtain ⟨t, ht, hrespond⟩ := respond_answering (options_plain hd ho) hid hconv hne
        hplain.made hs'
      cases script with
      | nil =>
          rw [Run.bind_apply_error hrespond]
          exact ⟨[], [p], ht, .inl (.of_late hplain rfl)⟩
      | cons xs rest =>
          obtain ⟨r, hrespond, hgists, -⟩ := hrespond
          rw [Run.bind_apply_ok hrespond]
          exact ⟨[], [p], ht, .inl (.of_late hplain (answers_last earlier hgists))⟩

/-- **The loop holds a dialogue**, from any messages on and behind any earlier ones, unless it
breaks off. -/
theorem respondFrom_concludes (limit : Int) (hd : (arguments.map Prod.fst).Nodup)
    (ho : m.options arguments = .ok o) (hoff : o.toolsOff = false)
    (hid : m.modelIdFor o = .ok id) (htools : Tool.byName (m.bare.tools arguments) = .ok tools)
    (hpicked : m.bare.tools arguments ≠ []) :
    ∀ n ms c earlier script request (s : Session), Wire.conversation ms = .ok c →
      c.messages ≠ [] → Wire.requestOf c o id = .ok request → Answering script s →
      Concludes tools o id c (earlier.map Message.gist) n script s
        (Client.respondFrom m.bare limit arguments n (Client.given ms) earlier s) := by
  intro n
  induction n with
  | zero =>
      intro ms c earlier script request s hconv hne hr hs
      exact respondFrom_over limit hd ho hid earlier hconv hne hs
  | succ n ih =>
      intro ms c earlier script request s hconv hne hr hs
      obtain ⟨hmessages, hoffered⟩ := Wire.requestOf_on hoff hr
      have hround : RoundRequest c o id request := ⟨hr, hmessages⟩
      obtain ⟨t, ht, hrespond⟩ := respond_answering ho hid hconv hne hr hs
      cases script with
      | nil =>
          rw [Client.respondFrom_error hrespond]
          exact ⟨[], [request], ht, .inl (.of_early hround rfl)⟩
      | cons xs rest =>
          obtain ⟨r, hrespond, hgists, hrest⟩ := hrespond
          have hcalls := Message.calls_spoken hgists
          by_cases hnone : xs.filterMap Spoken.call? = []
          · -- The turn calls nothing: it is the answer.
            rw [Client.respondFrom_answered hrespond (hcalls.trans hnone)]
            exact ⟨[], [request], ht,
              .inl (.of_early hround ⟨hnone, answers_last earlier hgists⟩)⟩
          · have hcalling : Message.calls r.messages ≠ [] := by rwa [hcalls]
            rcases Call.execute_cases (xs.filterMap Spoken.call?) htools with
              ⟨results, hresults, hran⟩ | ⟨f, hf, call, hmem, t', ht', hchecked, hbad⟩
            · -- The results are told, and the loop goes on behind them.
              let e : Exchange := ⟨xs, results⟩
              have hfollows : e.Follows tools := ⟨hnone, hran, Call.run_ids hran⟩
              have hconv' := Wire.conversation_exchange (e := e) hconv hgists hfollows.writable
              obtain ⟨request', hr'⟩ := Wire.exists_requestOf_on hoff hoffered (c.extended [e]) id
              have hne' : (c.extended [e]).messages ≠ [] := by
                simp [Wire.Conversation.extended, history, hne]
              rw [Client.respondFrom_executed hrespond hcalling hpicked (hcalls ▸ hresults),
                ← Wire.given_append]
              have hgoes := ih _ _ (earlier ++ (r.messages ++ [Message.ofResults results])) rest
                request' { t with log := t.log ++ (Call.execute (Message.calls r.messages)
                  (m.bare.tools arguments)).1 } hconv' hne' hr' hrest
              rw [Message.gists_exchange (e := e) earlier hgists] at hgoes
              exact .cons hfollows hround ht hgoes
            · -- The check of some arguments breaks down, and the run with it.
              rw [Client.respondFrom_broken hrespond hcalling hpicked (hcalls ▸ hf)]
              exact ⟨[], [request], ht,
                .inr ⟨f, .of_unchecked hround hmem ht' hchecked hbad, rfl⟩⟩

/-- **A run with tools is a dialogue, unless it breaks off.**  Request by request a dialogue sends
the first messages and the exchanges so far, it ends with the first turn that calls nothing, and
when the rounds are over it asks once more, for a plain answer.  A run breaks off exactly if the
script leads to a call whose check breaks down, or to messages that cannot be told without tools when
the rounds are over; it ends there with that fault, after the requests so far. -/
theorem respond_dialogue_iff {m : ChatModel} {arguments : List (String × Given)} {o : Options}
    {id : String} {ts : List Tool} {messages vs : List Given} {first : Document}
    {script : List (List Spoken)} {s : Session} (limit : Int)
    (hd : (arguments.map Prod.fst).Nodup) (hnamed : Client.misnamed? arguments = none)
    (ho : m.options arguments = .ok o) (hoff : o.toolsOff = false)
    (htools : o.tools.value? = some (ts.map ToolItem.tool)) (hts : ts ≠ [])
    (hid : m.modelIdFor o = .ok id) (hvs : Message.prepare (.list messages) = .ok vs)
    (hfirst : (Wire.request vs o id).2 = .ok first) (hs : Answering script s) :
    ∃ c requests result t,
      let tools := Entries.ofPairs (ts.map fun t => (t.name, t))
      Wire.conversationOf vs = .ok c ∧
      (m.bare.looped limit).respond messages arguments s = (result, t) ∧
      t.requests = s.requests ++ requests ∧
      ((∃ es, Dialogue tools o id c [] limit.toNat script es requests result) ↔
        ¬ ∃ es f, BreaksOff tools c limit.toNat script es f) ∧
      ((∃ es f, BreaksOff tools c limit.toNat script es f) →
        ∃ es f, Broken tools o id c limit.toNat script es requests f ∧
          result = .error (.fault f)) := by
  obtain ⟨ms, c, rfl, hconv, hne, hr⟩ := Wire.request_ok hfirst
  have hclear : clearsTools arguments = false := by
    by_contra hclear
    rcases tools_cleared hd ho (by simpa using hclear) with h | h <;> rw [h] at htools
    · exact hts (List.map_eq_nil_iff.mp (Option.some.inj htools).symm)
    · cases ts <;> simp at htools
  have hread := tools_read hd ho hclear
  rw [htools, Option.getD_some] at hread
  have hbyName : Tool.byName (m.bare.tools arguments) =
      .ok (Entries.ofPairs (ts.map fun t => (t.name, t))) := by
    rw [ToolItem.byName_eq hread, List.filterMap_map]
    simp [Function.comp_def, ToolItem.tool?]
  have hpicked : m.bare.tools arguments ≠ [] := by
    intro hnil
    rw [hnil] at hread
    exact hts (List.map_eq_nil_iff.mp (Except.ok.inj hread).symm)
  obtain ⟨es, requests, ht, hends⟩ :=
    respondFrom_concludes limit hd ho hoff hid hbyName hpicked limit.toNat ms c [] script first s
      hconv hne hr hs
  generalize hrun : Client.respondFrom m.bare limit arguments limit.toNat (Client.given ms) [] s =
    run at ht hends
  obtain ⟨result, t⟩ := run
  refine ⟨c, requests, result, t, Wire.conversationOf_ok.mpr ⟨ms, rfl, hconv⟩, ?_, ht, ?_, ?_⟩
  · rw [Client.respond_looped hnamed hvs, hrun]
  · constructor
    · rintro ⟨es, hdialogue⟩ ⟨es', f, hbreaks⟩
      exact hdialogue.not_breaksOff hbreaks
    · intro hgoes
      rcases hends with hdialogue | ⟨f, hbroken, -⟩
      · exact ⟨es, hdialogue⟩
      · exact absurd ⟨es, f, hbroken.breaks⟩ hgoes
  · rintro ⟨es', f, hbreaks⟩
    rcases hends with hdialogue | ⟨f, hbroken, hresult⟩
    · exact absurd hbreaks hdialogue.not_breaksOff
    · exact ⟨es, f, hbroken, hresult⟩

/-- A model with nothing set. -/
def bareHosted : ChatModel where
  name := Family.hosted.modelName
  family := .hosted
  defaults := { family := .hosted }
  modelId := some "m"

/-- A tool whose one parameter takes a number or a text, and has to be above three: a comparison
that breaks down on a text. -/
def threshold : Tool where
  name := "f"
  function := {
    name := "f"
    parameters := [{ name := "v", annotation := some {
      kind := .intOrStr, notes := [.rule { limits := [⟨.above, .int 3⟩] }] } }] }

/-- A session that answers with a call of the tool, and then with a text. -/
def thresholdSession (v : Document) : Session where
  replies := [.answer (plainReply [.call "t1" "f" [("v", v)]]),
    .answer (plainReply [.text "Done."])]

theorem answering_thresholdSession (v : Document) :
    Answering [[.call "t1" "f" [("v", v)]], [.text "Done."]] (thresholdSession v) :=
  ⟨_, rfl, .cons (isReply_plainReply _ _) (.cons (isReply_plainReply _ _) .nil)⟩

/-- With a number above three for an argument, the dialogue is one exchange and an answer. -/
theorem threshold_dialogue :
    ∃ o c es requests result t,
      (bareHosted.bare.looped 10).respond [.str "Hi."]
        [("tools", .list [.leaf (.tool threshold)])] (thresholdSession (.int 5)) = (result, t) ∧
      t.requests = requests ∧ es.length = 1 ∧ result.isOk = true ∧
      Dialogue [("f", threshold)] o "m" c [] 10
        [[.call "t1" "f" [("v", .int 5)]], [.text "Done."]] es requests result := by
  have hends : (((bareHosted.bare.looped 10).respond [.str "Hi."]
      [("tools", .list [.leaf (.tool threshold)])] (thresholdSession (.int 5))).1.isOk,
      ((bareHosted.bare.looped 10).respond [.str "Hi."]
      [("tools", .list [.leaf (.tool threshold)])] (thresholdSession (.int 5))).2.requests.length) =
      (true, 2) := by
    decide +kernel
  have hd : ([("tools", (.list [.leaf (.tool threshold)] : Given))].map Prod.fst).Nodup := by
    decide
  have hvs : Message.prepare (.list [.str "Hi."]) = .ok (Client.given [.ofText "Hi."]) := rfl
  obtain ⟨o, ho, htools, hoff, hid, hok⟩ : ∃ o,
      bareHosted.options [("tools", .list [.leaf (.tool threshold)])] = .ok o ∧
        o.tools.value? = some ([threshold].map ToolItem.tool) ∧ o.toolsOff = false ∧
        bareHosted.modelIdFor o = .ok "m" ∧
        (Wire.request (Client.given [.ofText "Hi."]) o "m").2.isOk = true :=
    ⟨_, rfl, rfl, rfl, rfl, by decide +kernel⟩
  obtain ⟨first, hfirst⟩ : ∃ r, (Wire.request (Client.given [.ofText "Hi."]) o "m").2 = .ok r := by
    revert hok
    cases (Wire.request (Client.given [.ofText "Hi."]) o "m").2 <;>
      simp [Except.isOk, Except.toBool]
  obtain ⟨c, requests, result, t, -, hrun, ht, hdialogue, hbroken⟩ :=
    respond_dialogue_iff 10 hd rfl ho hoff htools (List.cons_ne_nil _ _) hid hvs hfirst
      (answering_thresholdSession (.int 5))
  rw [hrun, ht] at hends
  obtain ⟨hok, htwo⟩ := Prod.mk.inj hends
  have hgoes : ¬ ∃ es f, BreaksOff [("f", threshold)] c 10
      [[.call "t1" "f" [("v", .int 5)]], [.text "Done."]] es f := by
    intro hbreaks
    obtain ⟨es, f, -, rfl⟩ := hbroken hbreaks
    cases hok
  obtain ⟨es, hdialogue⟩ := hdialogue.mpr hgoes
  have hone : es.length = 1 := by
    have htwo : requests.length = 2 := htwo
    rcases hdialogue.ending with ⟨-, hlen, -⟩ | ⟨-, hlen, -⟩ <;> omega
  exact ⟨o, c, es, requests, result, t, hrun, ht, hone, hok, hdialogue⟩

/-- With a text for it, the run ends after one request, although there are rounds left and the next
reply calls nothing. -/
theorem threshold_breaks :
    let end' := (bareHosted.bare.looped 10).respond [.str "Hi."]
        [("tools", .list [.leaf (.tool threshold)])] (thresholdSession (.str "9"))
    (end'.1.isOk, end'.2.requests.length, end'.2.replies.length) = (false, 1, 1) := by
  decide +kernel

end ChatModel

end Parley
