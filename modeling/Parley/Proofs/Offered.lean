/-
Only what was offered is run.

A round of a conversation is safe when every tool called in it is named in the
request of that round.  The loop looks its tools up again instead of taking those
of the request, so this does not hold by itself.  It holds when tools are not
switched off and no empty list of tools covers another, and `runs_offered_iff`
says that nothing less will do: in every other case some reply makes the loop call
a tool that no request of the run has offered.

What one answer and the calls after it leave behind is `Run.Continues`; the rounds
of a whole run are put together from it by induction on the rounds left.
-/
import Parley.Proofs.Execution
import Parley.Proofs.Loop
import Parley.Proofs.Options
import Parley.Proofs.Reply
import Parley.Proofs.Service

namespace Parley

/-! ### The tools that a request names -/

namespace Wire

/-- The name in the specification of a tool. -/
def specName? (spec : Document) : Option String :=
  ((spec.get? "toolSpec").bind (·.get? "name")).bind Value.asString?

/-- The names of the tools that a request offers. -/
def offeredNames (request : Document) : List String :=
  match (request.get? "toolConfig").bind (·.get? "tools") with
  | some (.list specs) => specs.filterMap specName?
  | _ => []

/-- The name under which an item is offered. -/
def offeredName? : ToolItem → Option String
  | .tool t => some t.name
  | .described entries => specName? (.obj entries)

theorem specName?_given {item : ToolItem} {spec : Document}
    (h : toolSpecOf? item.given = .ok (some spec)) : specName? spec = offeredName? item := by
  cases item with
  | tool t =>
      obtain ⟨s, hs, heq⟩ := Outcome.map_ok.mp h
      obtain rfl := Option.some.inj heq
      unfold toolSpec at hs
      split at hs
      · simp at hs
      · obtain rfl := Except.ok.inj hs
        rfl
  | described entries =>
      have hspec : spec = .obj entries := by
        have hsome := Option.some.inj (Except.ok.inj h)
        rw [← hsome, Given.documents_wrapped]
      rw [hspec]
      rfl

/-- **A request offers the tools in force, unless they are off.** -/
theorem offeredNames_request {vs : List Given} {o : Options} {id : String} {r : Document}
    (h : (request vs o id).2 = .ok r) :
    offeredNames r =
      if o.toolsOff then [] else (o.tools.value?.getD []).filterMap offeredName? := by
  obtain ⟨ms, c, -, -, -, hr⟩ := request_ok h
  unfold offeredNames
  by_cases hoff : o.toolsOff = true
  · rw [(requestOf_off hoff hr).2, if_pos hoff]
    rfl
  · obtain ⟨-, hoffered⟩ := requestOf_on (by simpa using hoff) hr
    rw [if_neg hoff]
    obtain ⟨specs, hspecs, hnone, htools⟩ := offered_ok hoffered
    have hnames : specs.filterMap specName? =
        (o.tools.value?.getD []).filterMap offeredName? := by
      generalize o.tools.value?.getD [] = items at hspecs
      clear hnone htools
      induction hspecs with
      | nil => rfl
      | cons hspec _ ih => rw [List.filterMap_cons, List.filterMap_cons, specName?_given hspec, ih]
    rw [← hnames]
    cases hconfig : r.get? "toolConfig" with
    | none =>
        rw [hnone.mp hconfig]
        rfl
    | some c => simp [htools c hconfig]

end Wire

/-! ### Rounds -/

/-- A round that asks for something of a kind, and calls only tools of a kind, after asking. -/
structure Round.Keeps (asked : Document → Prop) (called : Tool → Prop) (r : Round) : Prop where
  asks : r.Asks asked
  calls : ∀ q ∈ r.records, q.isInvocation = true →
    r.requests ≠ [] ∧ ∃ t, called t ∧ q = t.invocation

/-- A round that calls only tools that its request offers. -/
structure Round.RunsOffered (r : Round) : Prop where
  asks : r.Asks fun _ => True
  offers : ∀ q ∈ r.records, q.isInvocation = true → r.requests ≠ [] ∧
    ∃ t : Tool, q = t.invocation ∧ ∀ request ∈ r.requests, t.name ∈ Wire.offeredNames request

namespace Run

variable {α β : Type}

/-- A computation whose requests and records are those of rounds of a kind. -/
def Rounds (P : Round → Prop) (x : Run α) : Prop :=
  ∀ s, ∃ rounds : List Round,
    Session.Grows s (x s).2 (rounds.flatMap Round.requests) (rounds.flatMap Round.records) ∧
      ∀ r ∈ rounds, P r

/-- A computation that asks nothing and calls tools of a kind. -/
def Calls (called : Tool → Prop) (x : Run α) : Prop :=
  ∀ s, ∃ rs, Session.Grows s (x s).2 [] rs ∧ ∀ q ∈ rs, q.isAnnouncement = false ∧
    (q.isInvocation = true → ∃ t, called t ∧ q = t.invocation)

/-- A computation that goes on with a round, and then with further rounds. -/
def Continues (P : Round → Prop) (called : Tool → Prop) (x : Run α) : Prop :=
  ∀ s, ∃ (rs : List Record) (rounds : List Round),
    Session.Grows s (x s).2 (rounds.flatMap Round.requests)
      (rs ++ rounds.flatMap Round.records) ∧
    (∀ q ∈ rs, q.isAnnouncement = false ∧
      (q.isInvocation = true → ∃ t, called t ∧ q = t.invocation)) ∧
    ∀ r ∈ rounds, P r

variable {P : Round → Prop} {asked : Document → Prop} {called : Tool → Prop}

theorem Quiet.calls {x : Run α} (h : Quiet x) : Calls called x := by
  intro s
  obtain ⟨rs, hgrows, hrs⟩ := h s
  refine ⟨rs, hgrows, fun q hq => ?_⟩
  have hquiet := hrs q hq
  simp only [Record.isQuiet, Bool.and_eq_true, Bool.not_eq_true'] at hquiet
  exact ⟨hquiet.1, fun hinv => absurd hinv (by simp [hquiet.2])⟩

theorem Rounds.continues {x : Run α} (h : Rounds P x) : Continues P called x := by
  intro s
  obtain ⟨rounds, hgrows, hrounds⟩ := h s
  exact ⟨[], rounds, hgrows, by simp, hrounds⟩

theorem Continues.pure (a : α) : Continues P called (Pure.pure a : Run α) :=
  fun s => ⟨[], [], Session.Grows.refl s, by simp, by simp⟩

theorem Continues.map {x : Run α} (h : Continues P called x) (f : α → β) :
    Continues P called (x >>= fun a => Pure.pure (f a)) := by
  intro s
  obtain ⟨rs, rounds, hgrows, hall⟩ := h s
  rw [bind_apply]
  rcases hx : x s with ⟨e | a, t⟩ <;> rw [hx] at hgrows <;> exact ⟨rs, rounds, hgrows, hall⟩

theorem Calls.continues {x : Run α} {f : α → Run β} (hx : Calls called x)
    (hf : ∀ a, Continues P called (f a)) : Continues P called (x >>= f) := by
  intro s
  obtain ⟨rs, hgrows, hrs⟩ := hx s
  rw [bind_apply]
  rcases h : x s with ⟨e | a, t⟩ <;> rw [h] at hgrows
  · exact ⟨rs, [], by simpa using hgrows, hrs, by simp⟩
  · obtain ⟨qs, rounds, hgrows', hqs, hrounds⟩ := hf a t
    refine ⟨rs ++ qs, rounds, by simpa using hgrows.trans hgrows', fun q hq => ?_, hrounds⟩
    exact (List.mem_append.mp hq).elim (hrs q) (hqs q)

/-- **One answer, the calls after it and the rounds after those are rounds.** -/
theorem Asks.rounds {x : Run α} {f : α → Run β} (hx : Asks asked x)
    (hP : ∀ r : Round, r.Keeps asked called → P r) (hf : ∀ a, Continues P called (f a)) :
    Rounds P (x >>= f) := by
  intro s
  obtain ⟨r, hgrows, hasks, hno, hok⟩ := hx s
  rw [bind_apply]
  rcases h : x s with ⟨e | a, t⟩ <;> rw [h] at hgrows hok
  · have hkeeps : r.Keeps asked called := ⟨hasks, fun q hq hinv => absurd hinv (by simp [hno q hq])⟩
    exact ⟨[r], by simpa using hgrows, by simpa using hP r hkeeps⟩
  · obtain ⟨rs, rounds, hgrows', hrs, hrounds⟩ := hf a t
    have hkeeps : Round.Keeps asked called ⟨r.requests, r.records ++ rs⟩ := by
      refine ⟨?_, fun q hq hinv => ?_⟩
      · have hnone : rs.countP Record.isAnnouncement = 0 := by
          rw [List.countP_eq_zero]
          exact fun q hq => by simp [(hrs q hq).1]
        simpa only [Round.Asks, List.countP_append, hnone, Nat.add_zero] using hasks
      · rcases List.mem_append.mp hq with hq | hq
        · exact absurd hinv (by simp [hno q hq])
        · exact ⟨hok ⟨a, rfl⟩, (hrs q hq).2 hinv⟩
    refine ⟨⟨r.requests, r.records ++ rs⟩ :: rounds, ?_, ?_⟩
    · simpa [List.append_assoc] using hgrows.trans hgrows'
    · intro r' hr'
      rcases List.mem_cons.mp hr' with rfl | hr'
      · exact hP _ hkeeps
      · exact hrounds r' hr'

theorem Rounds.after {x : Run α} {f : α → Run β} (hx : ∀ s, (x s).2 = s)
    (hf : ∀ a, Rounds P (f a)) : Rounds P (x >>= f) := by
  intro s
  rw [bind_apply]
  have hs := hx s
  rcases h : x s with ⟨e | a, t⟩ <;> rw [h] at hs <;> subst hs
  · exact ⟨[], Session.Grows.refl _, by simp⟩
  · exact hf a _

end Run

namespace Client

/-! ### The rounds of the loop -/

/-- A tool that calls can be run with: it is found under a name, and there are arguments that it
takes. -/
def CanCall (c : Client) (arguments : List (String × Given)) (t : Tool) : Prop :=
  ∃ tools name, Tool.byName (c.tools arguments) = .ok tools ∧
    Entries.get? tools name = some t ∧ t.TakesSome

variable {c : Client} {arguments : List (String × Given)} {asked plainly : Document → Prop}
  {P : Round → Prop}

theorem calls_execute (c : Client) (arguments : List (String × Given)) (calls : List Call) :
    Run.Calls (c.CanCall arguments)
      (Run.ofLogged (Call.execute calls (c.tools arguments))) := by
  intro s
  rw [Run.ofLogged_apply]
  refine ⟨_, ⟨by simp, rfl⟩, fun q hq => ?_⟩
  obtain ⟨hsource, hcalled⟩ := Call.execute_records hq
  refine ⟨by simp [Record.isAnnouncement, hsource], fun hinv => ?_⟩
  obtain ⟨tools, name, t, htools, ht, htakes, heq⟩ := hcalled hinv
  exact ⟨t, ⟨tools, name, htools, ht, htakes⟩, heq⟩

theorem quiet_noteLimit (limit : Int) : Run.Quiet (noteLimit limit) :=
  .note (by simp [Record.isQuiet, Record.isAnnouncement, Record.isInvocation])

theorem rounds_respondFrom (limit : Int)
    (hask : ∀ messages, Run.Asks asked (c.respond messages arguments))
    (hplain : ∀ messages, Run.Asks plainly (c.respond messages (plain arguments)))
    (hP' : ∀ r : Round, r.Keeps plainly (fun _ => False) → P r) :
    ∀ n, (0 < n → ∀ r : Round, r.Keeps asked (c.CanCall arguments) → P r) →
      ∀ messages earlier, Run.Rounds P (respondFrom c limit arguments n messages earlier) := by
  intro n
  induction n with
  | zero =>
      intro _ messages earlier
      unfold respondFrom
      rw [← bind_assoc]
      exact Run.Asks.rounds (.after (quiet_noteLimit limit) fun _ _ _ _ => hplain messages) hP'
        fun _ => .pure _
  | succ n ih =>
      intro hP messages earlier
      refine (hask messages).rounds (hP n.succ_pos) fun r => ?_
      split
      · rename_i tool tools htools
        rw [← htools]
        exact (calls_execute c arguments _).continues fun _ =>
          (ih (fun _ => hP n.succ_pos) _ _).continues
      · exact .pure _

theorem rounds_streamFrom (limit : Int)
    (hask : ∀ messages, Run.Asks asked (c.stream messages arguments))
    (hplain : ∀ messages, Run.Asks plainly (c.stream messages (plain arguments)))
    (hP' : ∀ r : Round, r.Keeps plainly (fun _ => False) → P r) :
    ∀ n, (0 < n → ∀ r : Round, r.Keeps asked (c.CanCall arguments) → P r) →
      ∀ messages, Run.Rounds P (streamFrom c limit arguments n messages) := by
  intro n
  induction n with
  | zero =>
      intro _ messages
      have hasks := Run.Asks.after (quiet_noteLimit limit) fun _ _ _ _ => hplain messages
      have hrounds := hasks.rounds hP' fun updates => .pure updates
      rwa [bind_pure] at hrounds
  | succ n ih =>
      intro hP messages
      refine (hask messages).rounds (hP n.succ_pos) fun updates => ?_
      split
      · exact .pure _
      · dsimp only
        split
        · exact .pure _
        · rename_i tool tools htools
          rw [← htools]
          refine (calls_execute c arguments _).continues fun results => ?_
          exact (Run.Quiet.emit _).calls.continues fun _ =>
            (ih (fun _ => hP n.succ_pos) _).continues.map _

/-- **Every run of the loop is made of rounds that ask and then call.** -/
theorem rounds_looped (limit : Int)
    (hask : ∀ messages, Run.Asks asked (c.respond messages arguments) ∧
      Run.Asks asked (c.stream messages arguments))
    (hplain : ∀ messages, Run.Asks plainly (c.respond messages (plain arguments)) ∧
      Run.Asks plainly (c.stream messages (plain arguments)))
    (hP : misnamed? arguments = none → 0 < limit →
      ∀ r : Round, r.Keeps asked (c.CanCall arguments) → P r)
    (hP' : ∀ r : Round, r.Keeps plainly (fun _ => False) → P r) (messages : List Given) :
    Run.Rounds P ((c.looped limit).respond messages arguments) ∧
      Run.Rounds P ((c.looped limit).stream messages arguments) := by
  have hprepare (s : Session) :
      ((Run.ofExcept (Message.prepare (.list messages)) : Run (List Given)) s).2 = s := by
    rw [Run.ofExcept_apply]
  have hlooped : ∀ {α : Type} (f : List Given → Run α),
      (misnamed? arguments = none → ∀ messages, Run.Rounds P (f messages)) →
      Run.Rounds P (do
        refuseMisnamed arguments
        let messages ← Run.ofExcept (Message.prepare (.list messages))
        f messages) := by
    intro α f hf s
    unfold refuseMisnamed
    cases hm : misnamed? arguments with
    | some fault => exact ⟨[], Session.Grows.refl s, by simp⟩
    | none => exact Run.Rounds.after (fun _ => rfl) (fun _ => .after hprepare (hf hm)) s
  constructor
  · refine hlooped _ fun hm messages => ?_
    exact rounds_respondFrom limit (fun ms => (hask ms).1) (fun ms => (hplain ms).1) hP' _
      (fun hn => hP hm (by omega)) _ _
  · refine hlooped _ fun hm messages => ?_
    exact rounds_streamFrom limit (fun ms => (hask ms).2) (fun ms => (hplain ms).2) hP' _
      (fun hn => hP hm (by omega)) _

end Client

namespace ChatModel

/-! ### What is picked and what is offered -/

/-- A tool that calls can be run with is in force, unless an empty list covers it. -/
theorem mem_tools_of_canCall {m : ChatModel} {arguments : List (String × Given)} {o : Options}
    {t : Tool} (hd : (arguments.map Prod.fst).Nodup) (ho : m.options arguments = .ok o)
    (hclear : clearsTools arguments = false) (h : m.bare.CanCall arguments t) :
    ToolItem.tool t ∈ o.tools.value?.getD [] := by
  obtain ⟨tools, name, htools, ht, -⟩ := h
  rw [ToolItem.byName_eq (tools_read hd ho hclear)] at htools
  obtain rfl := Except.ok.inj htools
  obtain ⟨t', ht', heq⟩ := List.mem_map.mp (Entries.mem_of_get?_ofPairs ht)
  obtain rfl : t' = t := congrArg Prod.snd heq
  obtain ⟨item, hitem, htool⟩ := List.mem_filterMap.mp ht'
  cases item with
  | tool t =>
      obtain rfl := Option.some.inj htool
      exact hitem
  | described entries => simp [ToolItem.tool?] at htool

/-- What is picked is offered, in every request made for the arguments. -/
theorem offered_of_canCall {m : ChatModel} {arguments : List (String × Given)} {o : Options}
    {t : Tool} {request : Document} (hd : (arguments.map Prod.fst).Nodup)
    (ho : m.options arguments = .ok o) (hoff : o.toolsOff = false)
    (hclear : clearsTools arguments = false) (hmakes : m.Makes arguments request)
    (h : m.bare.CanCall arguments t) : t.name ∈ Wire.offeredNames request := by
  obtain ⟨o', vs, id, ho', -, hrequest⟩ := hmakes
  obtain rfl : o = o' := Except.ok.inj (ho.symm.trans ho')
  rw [Wire.offeredNames_request hrequest, hoff, if_neg (by decide)]
  exact List.mem_filterMap.mpr ⟨_, mem_tools_of_canCall hd ho hclear h, rfl⟩

/-- Where tools are off or covered by an empty list, no request offers any. -/
theorem offeredNames_eq_nil {m : ChatModel} {arguments : List (String × Given)} {o : Options}
    {request : Document} (hd : (arguments.map Prod.fst).Nodup)
    (ho : m.options arguments = .ok o)
    (h : o.toolsOff = true ∨ clearsTools arguments = true) (hmakes : m.Makes arguments request) :
    Wire.offeredNames request = [] := by
  obtain ⟨o', vs, id, ho', -, hrequest⟩ := hmakes
  obtain rfl : o = o' := Except.ok.inj (ho.symm.trans ho')
  rw [Wire.offeredNames_request hrequest]
  rcases h with hoff | hclear
  · rw [if_pos hoff]
  · rcases tools_cleared hd ho hclear with htools | htools <;> rw [htools] <;>
      cases o.toolsOff <;> rfl

theorem offeredNames_plain {m : ChatModel} {arguments : List (String × Given)} {o : Options}
    {request : Document} (hd : (arguments.map Prod.fst).Nodup)
    (ho : m.options arguments = .ok o) (hmakes : m.Makes (Client.plain arguments) request) :
    Wire.offeredNames request = [] := by
  obtain ⟨o', vs, id, ho', -, hrequest⟩ := hmakes
  rw [options_plain hd ho] at ho'
  obtain rfl := Except.ok.inj ho'
  rw [Wire.offeredNames_request hrequest]
  rfl

/-- A tool that can be called is called when a reply asks for it. -/
theorem exists_invocation {m : ChatModel} {arguments : List (String × Given)} {ms : List Message}
    {id : String} {request : Document} {t : Tool} {limit : Int}
    (hnamed : Client.misnamed? arguments = none) (hlimit : 0 < limit)
    (hrequest : (m.prepared (Client.given ms) arguments).2 = .ok (id, request))
    (ht : m.bare.CanCall arguments t) :
    ∃ s : Session, s.requests = [] ∧ s.log = [] ∧
      t.invocation ∈ ((m.bare.looped limit).respond (Client.given ms) arguments s).2.log := by
  obtain ⟨tools, name, htools, hget, entries, checked, hchecked⟩ := ht
  obtain ⟨n, hn⟩ : ∃ n, limit.toNat = n + 1 := ⟨limit.toNat - 1, by omega⟩
  let s : Session := { replies := [.answer (plainReply [.call "1" name entries])] }
  refine ⟨s, rfl, rfl, ?_⟩
  -- The reply is read as the one call.
  obtain ⟨records, -, hrespond⟩ := respond_answer (s := s) hrequest rfl
  obtain ⟨r, hread, hgists, -⟩ :=
    read_isReply (isReply_plainReply [.call "1" name entries] "end_turn") id
  rw [hread] at hrespond
  have hcalls : Message.calls r.messages =
      [{ id := "1", name, arguments := .entries entries }] := Message.calls_spoken hgists
  have hpicked : m.bare.tools arguments ≠ [] := by
    intro hnil
    rw [hnil] at htools
    rw [← Except.ok.inj htools] at hget
    simp [Entries.ofPairs, Entries.union] at hget
  have hcalling : Message.calls r.messages ≠ [] := by simp [hcalls]
  have hmem : t.invocation ∈
      (Call.execute (Message.calls r.messages) (m.bare.tools arguments)).1 := by
    unfold Call.execute
    rw [htools, hcalls]
    exact List.mem_flatMap.mpr ⟨_, List.mem_singleton_self _, Call.invocation_mem_run hget hchecked⟩
  -- So the tool is called, and what comes later only adds to the log.
  rw [Client.respond_looped hnamed (Client.prepare_given ms), hn]
  cases hran : (Call.execute (Message.calls r.messages) (m.bare.tools arguments)).2 with
  | error f =>
      rw [Client.respondFrom_broken hrespond hcalling hpicked hran]
      exact List.mem_append_right _ hmem
  | ok results =>
      rw [Client.respondFrom_executed hrespond hcalling hpicked hran]
      obtain ⟨rounds, hgrows, -⟩ := Client.rounds_respondFrom (c := m.bare) limit
        (fun ms => asks_respond m ms arguments) (fun ms => asks_respond m ms _)
        (fun _ _ => trivial) n (fun _ _ _ => trivial) _ _ _
      rw [hgrows.log]
      exact List.mem_append_left _ (List.mem_append_right _ hmem)

/-- Calls are run although no request offers a tool: a request can be made, tools are off or an
empty list covers others, and still there is a tool that can be called. -/
def Unguarded (m : ChatModel) (limit : Int) (arguments : List (String × Given)) : Prop :=
  Client.misnamed? arguments = none ∧ 0 < limit ∧
    ∃ o, m.options arguments = .ok o ∧ (o.toolsOff = true ∨ clearsTools arguments = true) ∧
      (∃ vs id r, m.modelIdFor o = .ok id ∧ (Wire.request vs o id).2 = .ok r) ∧
      ∃ t, m.bare.CanCall arguments t

theorem asks_bare (m : ChatModel) (arguments : List (String × Given)) (messages : List Given) :
    Run.Asks (m.Makes arguments) (m.bare.respond messages arguments) ∧
      Run.Asks (m.Makes arguments) (m.bare.stream messages arguments) :=
  ⟨asks_respond m messages arguments, asks_stream m messages arguments⟩

/-- Calls that are run unguarded show in some run. -/
theorem not_rounds_of_unguarded {m : ChatModel} {limit : Int} {arguments : List (String × Given)}
    (hd : (arguments.map Prod.fst).Nodup) (hu : m.Unguarded limit arguments) :
    ¬ ∀ messages,
      Run.Rounds Round.RunsOffered ((m.bare.looped limit).respond messages arguments) := by
  obtain ⟨hnamed, hlimit, o, ho, hnone, ⟨vs, id, request, hid, hrequest⟩, t, ht⟩ := hu
  intro h
  obtain ⟨ms, c, rfl, hconv, hne, hmade⟩ := Wire.request_ok hrequest
  have hprepared := (prepared_given ho hid hconv hne).trans (Outcome.map_ok.mpr ⟨_, hmade, rfl⟩)
  obtain ⟨s, hrequests, hlog, hmem⟩ := exists_invocation hnamed hlimit hprepared ht
  obtain ⟨rounds, hgrows, hsafe⟩ := h (Client.given ms) s
  -- No request of this run offers anything, since none of any run does.
  obtain ⟨rounds', hgrows', hnames⟩ := (Client.rounds_looped limit
    (P := fun r => ∀ d ∈ r.requests, Wire.offeredNames d = []) (m.asks_bare arguments)
    (m.asks_bare (Client.plain arguments))
    (fun _ _ r hr d hd' => offeredNames_eq_nil hd ho hnone (hr.asks.of_mem hd'))
    (fun r hr d hd' => offeredNames_plain hd ho (hr.asks.of_mem hd')) (Client.given ms)).1 s
  rw [hgrows.log, hlog] at hmem
  obtain ⟨r, hr, hinvoked⟩ := List.mem_flatMap.mp hmem
  obtain ⟨hasked, t', -, hoffers⟩ := (hsafe r hr).offers _ hinvoked rfl
  obtain ⟨d, hd'⟩ := List.exists_mem_of_ne_nil _ hasked
  have hd'' : d ∈ rounds'.flatMap Round.requests := by
    have heq := hgrows.requests.symm.trans hgrows'.requests
    rw [List.append_cancel_left_eq] at heq
    rw [← heq]
    exact List.mem_flatMap.mpr ⟨r, hr, hd'⟩
  obtain ⟨r', hr', hmem'⟩ := List.mem_flatMap.mp hd''
  have hoffered := hoffers d hd'
  rw [hnames r' hr' d hmem'] at hoffered
  simp at hoffered

/-- **Only offered tools are run, in every run on every script, exactly when calls are not run
unguarded.** -/
theorem runs_offered_iff {m : ChatModel} {limit : Int} {arguments : List (String × Given)}
    (hd : (arguments.map Prod.fst).Nodup) :
    (∀ messages,
      Run.Rounds Round.RunsOffered ((m.bare.looped limit).respond messages arguments) ∧
      Run.Rounds Round.RunsOffered ((m.bare.looped limit).stream messages arguments)) ↔
      ¬ m.Unguarded limit arguments := by
  constructor
  · exact fun h hu => not_rounds_of_unguarded hd hu fun messages => (h messages).1
  · intro h messages
    refine Client.rounds_looped limit (m.asks_bare arguments) (m.asks_bare (Client.plain arguments))
      ?_ ?_ messages
    · intro hnamed hlimit r hr
      refine ⟨hr.asks.mono fun _ _ => trivial, fun q hq hinv => ?_⟩
      obtain ⟨hasked, t, ht, rfl⟩ := hr.calls q hq hinv
      refine ⟨hasked, t, rfl, fun request hmem => ?_⟩
      have hmakes := hr.asks.of_mem hmem
      obtain ⟨o, vs, id, ho, hid, hrequest⟩ := hmakes
      by_contra hnot
      refine h ⟨hnamed, hlimit, o, ho, ?_, ⟨vs, id, request, hid, hrequest⟩, t, ht⟩
      by_contra hboth
      simp only [not_or, Bool.not_eq_true] at hboth
      exact hnot (offered_of_canCall hd ho hboth.1 hboth.2 (hr.asks.of_mem hmem) ht)
    · intro r hr
      refine ⟨hr.asks.mono fun _ _ => trivial, fun q hq hinv => ?_⟩
      obtain ⟨-, t, hfalse, -⟩ := hr.calls q hq hinv
      exact hfalse.elim

/-- A tool without parameters. -/
def chime : Tool := { name := "chime", function := { name := "chime" } }

/-- A model that offers it unless told otherwise. -/
def chiming : ChatModel where
  name := Family.hosted.modelName
  family := .hosted
  defaults := { family := .hosted, tools := .filled [.tool chime] }
  modelId := some "m"

/-- Nothing given with a request, the tools of the model are offered and run. -/
theorem chiming_runs_offered :
    Run.Rounds Round.RunsOffered ((chiming.bare.looped 10).respond [.str "Hi."] []) ∧
      Run.Rounds Round.RunsOffered ((chiming.bare.looped 10).stream [.str "Hi."] []) := by
  have hd : (([] : List (String × Given)).map Prod.fst).Nodup := List.nodup_nil
  refine (runs_offered_iff hd).mpr ?_ [.str "Hi."]
  rintro ⟨-, -, o, ho, hnone, -⟩
  obtain rfl := Except.ok.inj ho
  rcases hnone with h | h <;> exact absurd h (by decide)

/-- Given an empty list of tools, the model offers none and runs its own all the same. -/
theorem chiming_runs_unoffered :
    ¬ ∀ messages, Run.Rounds Round.RunsOffered
      ((chiming.bare.looped 10).respond messages [("tools", .list [])]) :=
  not_rounds_of_unguarded (by decide) ⟨rfl, by decide, _, rfl, .inr rfl,
    ⟨Client.given [.ofText "Hi."], "m", _, rfl, rfl⟩, chime, _, "chime", rfl, rfl, [], [], rfl⟩

end ChatModel

end Parley
