/-
Embeddings and the inputs that they belong to.

One family asks about all inputs at once, and the reply holds a vector for each.  The other asks
about one input after the other, and the n-th reply is about the n-th input.  What has been embedded
so far carries the induction: behind every input stand as many embeddings as replies, numbered in
their order, and the tokens of those replies.  The run ends at the first input that is not embedded,
before anything is asked about those behind it.
-/
import Parley.Proofs.Invocation
import Parley.Proofs.Vectors

namespace Parley

namespace EmbeddingModel

variable {m : EmbeddingModel} {layer : Option EmbeddingOptions} {o : EmbeddingOptions}
  {id : String} {values v : Given} {vs front rest : List Given} {p q : Progress} {s t u : Session}

/-! ### One input -/

/-- A request for one input, which carries it unless the properties have an entry of that name. -/
structure RequestFor (id : String) (o : EmbeddingOptions) (v : Given) (request : Document) :
    Prop where
  made : ∃ body, singleBody o v = .ok body ∧ Endpoint.Invokes id body request ∧
    ∃ entry, inputEntry o v = .ok entry ∧
      (Entries.get? o.properties entry.1 = none → body.get? entry.1 = some entry.2)

/-- Ask about one input. -/
def ask (m : EmbeddingModel) (id : String) (o : EmbeddingOptions) (v : Given) : Run Document := do
  let body ← Run.ofExcept (singleBody o v)
  Endpoint.invoke m.policy (.str id) body

theorem singleBody_carries {body : Document} (h : singleBody o v = .ok body) :
    ∃ entry, inputEntry o v = .ok entry ∧
      (Entries.get? o.properties entry.1 = none → body.get? entry.1 = some entry.2) := by
  obtain ⟨entry, hentry, hbody⟩ := Outcome.bind_ok.mp h
  refine ⟨entry, hentry, fun hnone => ?_⟩
  obtain rfl := Except.ok.inj hbody
  rw [Value.get?, Entries.get?_union_none hnone]
  simp [Entries.get?]

theorem requestFor_of_body {body request : Document} (h : singleBody o v = .ok body)
    (hrequest : Endpoint.Invokes id body request) : RequestFor id o v request :=
  ⟨body, h, hrequest, singleBody_carries h⟩

/-- An answer that is ready for an input is read. -/
theorem ask_answer (m : EmbeddingModel) (id : String) {body : Document} {text : String}
    {a : Value Attachment} {b : List UInt8} {left : List Reply}
    (hbody : singleBody o v = .ok body) (htext : jsonBody body = .ok text)
    (hb : Endpoint.bodyOf a = .ok b) (h : s.replies = .answer a :: left) :
    ∃ t, m.ask id o v s = ((Endpoint.readBody b).mapError Halt.fault, t) ∧ t.replies = left := by
  obtain ⟨t, hinvoke, hleft, -⟩ := Endpoint.invoke_answer m.policy (.str id) htext h
  rw [hb, Outcome.ok_bind] at hinvoke
  refine ⟨t, ?_, hleft⟩
  rw [← hinvoke, ask, hbody]
  rfl

/-- An input that is answered is an inquiry. -/
theorem ask_ok {reply : Document} (h : m.ask id o v s = (.ok reply, t)) :
    ∃ x : Inquiry, RequestFor id o v x.request ∧ x.Held m.policy ∧ x.reply = reply ∧
      s.Inquiries t [x] := by
  obtain ⟨body, hbody, hinvoke⟩ := Run.ofExcept_bind_ok h
  obtain ⟨x, hasks, hx⟩ := Endpoint.invoke_ok hinvoke
  exact ⟨x, requestFor_of_body hbody hasks, hx⟩

theorem sends_ask (m : EmbeddingModel) (id : String) (o : EmbeddingOptions) (v : Given) :
    Run.Sends (RequestFor id o v) (m.ask id o v) := by
  refine Run.Sends.ofExcept_bind fun body hbody => ?_
  refine Endpoint.sends_invoke _ _ _ fun text htext => ?_
  exact requestFor_of_body hbody ⟨text, htext, rfl⟩

/-! ### One input after the other -/

theorem embedEach_cons (m : EmbeddingModel) (id : String) (o : EmbeddingOptions) (v : Given)
    (rest : List Given) (p : Progress) :
    m.embedEach id o (v :: rest) p =
      m.ask id o v >>= fun reply =>
        Run.ofExcept (p.add id reply) >>= fun p => m.embedEach id o rest p := by
  rw [embedEach, ask, bind_assoc]

theorem embedEach_append (m : EmbeddingModel) (id : String) (o : EmbeddingOptions)
    (front rest : List Given) (p : Progress) :
    m.embedEach id o (front ++ rest) p =
      m.embedEach id o front p >>= fun p => m.embedEach id o rest p := by
  induction front generalizing p with
  | nil => rw [List.nil_append, embedEach, pure_bind]
  | cons v front ih =>
      rw [List.cons_append, embedEach_cons, embedEach_cons, bind_assoc]
      simp only [bind_assoc, ih]

/-- **Inputs that are all embedded are inquiries one by one**, and what they tell is gathered. -/
theorem embedEach_ok (h : m.embedEach id o vs p s = (.ok q, t)) :
    ∃ xs told, List.Forall₂ (fun v x => RequestFor id o v x.request) vs xs ∧
      (∀ x ∈ xs, x.Held m.policy) ∧ s.Inquiries t xs ∧
      Gathered p (xs.map Inquiry.reply) told q := by
  induction vs generalizing p s with
  | nil =>
      cases h
      exact ⟨[], [], .nil, by simp, .refl _, .refl _⟩
  | cons v rest ih =>
      rw [embedEach_cons] at h
      obtain ⟨reply, u, hask, hadd⟩ := Run.bind_ok h
      obtain ⟨x, hrequest, hheld, rfl, hinquiry⟩ := ask_ok hask
      obtain ⟨p', hp', hrest⟩ := Run.ofExcept_bind_ok hadd
      obtain ⟨ys, count, tokens, htells, htokens, rfl⟩ := Progress.add_ok.mp hp'
      obtain ⟨xs, told, hrequests, hall, hinquiries, hgathered⟩ := ih hrest
      refine ⟨x :: xs, (ys, count) :: told, .cons hrequest hrequests, ?_,
        hinquiry.trans hinquiries, .cons htells htokens hgathered⟩
      intro y hy
      rcases List.mem_cons.mp hy with rfl | hy
      · exact hheld
      · exact hall y hy

/-! ### A whole run -/

/-- Put the answer together once all inputs are embedded. -/
def finish (m : EmbeddingModel) (o : EmbeddingOptions) (p : Progress) : Run EmbeddingResponse := do
  Run.ofExcept p.tokens.writable
  Run.say .debug .embedding
    (s!"Created {p.embeddings.length} Titan embeddings using " ++ p.tokens.display ++
      " input tokens.")
  let usage ← Run.ofExcept (countsOf p.tokens)
  return { embeddings := p.embeddings, modelId := some (m.modelIdFor o), usage := some usage
           raw := .list p.raw }

theorem embedSingly_eq (m : EmbeddingModel) (vs : List Given) (o : EmbeddingOptions) :
    m.embedSingly vs o = m.embedEach (m.modelIdFor o) o vs {} >>= m.finish o := rfl

theorem finish_ok {r : EmbeddingResponse} (h : m.finish o p s = (.ok r, t)) :
    ∃ usage, countsOf p.tokens = .ok usage ∧ t.requests = s.requests ∧ t.replies = s.replies ∧
      r = { embeddings := p.embeddings, modelId := some (m.modelIdFor o), usage := some usage
            raw := .list p.raw } := by
  obtain ⟨-, -, hrest⟩ := Run.ofExcept_bind_ok h
  rw [Run.bind_apply_ok (Run.say_apply _ _ _ _)] at hrest
  obtain ⟨usage, husage, hr⟩ := Run.ofExcept_bind_ok hrest
  cases hr
  exact ⟨usage, husage, rfl, rfl, rfl⟩

theorem embed_singly (hfamily : m.family = .titan) (hvalues : inputs values = .ok vs)
    (hsome : vs ≠ []) (ho : m.options layer = .ok o) :
    m.embed values layer = m.embedSingly vs o := by
  unfold embed
  rw [hvalues]
  show (if vs.isEmpty then _ else _) = _
  rw [if_neg (by simpa using hsome), ho, hfamily]
  rfl

theorem embed_jointly (hfamily : m.family ≠ .titan) (hvalues : inputs values = .ok vs)
    (hsome : vs ≠ []) (ho : m.options layer = .ok o) :
    m.embed values layer = m.embedJointly vs o := by
  unfold embed
  rw [hvalues]
  show (if vs.isEmpty then _ else _) = _
  rw [if_neg (by simpa using hsome), ho]
  cases hother : m.family with
  | titan => exact absurd hother hfamily
  | general => rfl
  | cohere => rfl

/-- What is embedded has been read as inputs, under options. -/
theorem embed_ok {r : EmbeddingResponse} (h : m.embed values layer s = (.ok r, t)) :
    ∃ vs o, inputs values = .ok vs ∧ vs ≠ [] ∧ m.options layer = .ok o := by
  obtain ⟨vs, hvalues, hrest⟩ := Run.ofExcept_bind_ok h
  by_cases hsome : vs = []
  · rw [hsome] at hrest
    cases hrest
  · rw [if_neg (by simpa using hsome)] at hrest
    obtain ⟨o, ho, -⟩ := Run.ofExcept_bind_ok hrest
    exact ⟨vs, o, hvalues, hsome, ho⟩

/-- What all inputs together come to: one inquiry that asks about all texts, and a reply that holds
a vector for each.  The request holds the texts unless the properties have an entry of that name. -/
structure Joint (m : EmbeddingModel) (inputs : List Given) (o : EmbeddingOptions)
    (r : EmbeddingResponse) (s t : Session) (texts : List String) (x : Inquiry) : Prop where
  inputs : inputs = texts.map .str
  inquiries : s.Inquiries t [x]
  held : x.Held m.policy
  request : Endpoint.Invokes (m.modelIdFor o) (jointBody texts o) x.request
  carries : Entries.get? o.properties "texts" = none →
    (jointBody texts o).get? "texts" = some (.list (texts.map .str))
  vectors : ∃ entries vectors, x.reply = .obj entries ∧ Holds entries vectors ∧
    List.Forall₂ (fun v e => RunsThrough v e.vector) vectors r.embeddings
  raw : r.raw = x.reply

/-- What inputs one after the other come to: an inquiry about each, whose reply tells its vector.
The counts are the sum of what the replies tell, and of whole numbers it is exact. -/
structure Single (m : EmbeddingModel) (inputs : List Given) (o : EmbeddingOptions)
    (r : EmbeddingResponse) (s t : Session) (xs : List Inquiry)
    (told : List (List Float × Document)) (n : Int) : Prop where
  inquiries : s.Inquiries t xs
  held : ∀ x ∈ xs, x.Held m.policy
  requests : List.Forall₂ (fun v x => RequestFor (m.modelIdFor o) o v x.request) inputs xs
  tells : List.Forall₂ (fun x y => Tells x.reply y.1 y.2) xs told
  vectors : r.embeddings.map Embedding.vector = told.map Prod.fst
  raw : r.raw = .list (xs.map Inquiry.reply)
  usage : r.usage = some ⟨some n, none, some n⟩
  counted : ∃ total, (told.map Prod.snd).foldlM Value.plus (.int 0) = .ok total ∧
    Check.int total = .ok n
  summed : ∀ ns : List Int, told.map Prod.snd = ns.map .int → n = ns.sum

/-- Embeddings that stand where their inputs do. -/
structure LinedUp (m : EmbeddingModel) (inputs : List Given) (o : EmbeddingOptions)
    (r : EmbeddingResponse) (s t : Session) : Prop where
  count : r.embeddings.length = inputs.length
  index : ∀ i (h : i < r.embeddings.length), r.embeddings[i].index = i
  ordered : Embedding.ordered r.embeddings = r.embeddings.map Embedding.vector
  joint : m.family ≠ .titan → ∃ texts x, m.Joint inputs o r s t texts x
  single : m.family = .titan → ∃ xs told n, m.Single inputs o r s t xs told n

theorem textsOf_ok {texts : List String} (h : textsOf vs = .ok texts) : vs = texts.map .str := by
  have hall : vs.mapM Value.asString? = some texts := by
    unfold textsOf at h
    split at h
    · rwa [← Except.ok.inj h]
    · cases h
  clear h
  induction vs generalizing texts with
  | nil =>
      cases hall
      rfl
  | cons v rest ih =>
      rw [List.mapM_cons] at hall
      obtain ⟨text, htext, hall⟩ := Option.bind_eq_some_iff.mp hall
      obtain ⟨more, hmore, hall⟩ := Option.bind_eq_some_iff.mp hall
      cases hall
      cases v with
      | str s =>
          cases htext
          rw [ih hmore]
          rfl
      | _ => cases htext

theorem embedJointly_ok {r : EmbeddingResponse} (h : m.embedJointly vs o s = (.ok r, t)) :
    r.embeddings.length = vs.length ∧ Embedding.NumberedFrom 0 r.embeddings ∧
      ∃ texts x, m.Joint vs o r s t texts x := by
  obtain ⟨texts, htexts, hrest⟩ := Run.ofExcept_bind_ok h
  obtain ⟨reply, u, hinvoke, hread⟩ := Run.bind_ok hrest
  obtain ⟨x, hrequest, hheld, rfl, hinquiries⟩ := Endpoint.invoke_ok hinvoke
  obtain ⟨es, hes, hr⟩ := Run.ofExcept_bind_ok hread
  cases hr
  obtain ⟨entries, vectors, hreply, hholds, hlength, hvectors, hnumbered⟩ := readJoint_ok.mp hes
  refine ⟨by rw [← hlength, hvectors.length_eq], hnumbered, texts, x, textsOf_ok htexts, hinquiries,
    hheld, hrequest, fun hnone => ?_, ⟨entries, vectors, hreply, hholds, hvectors⟩, rfl⟩
  rw [jointBody, Value.get?, Entries.get?_union_none hnone]
  rfl

theorem embedSingly_ok {r : EmbeddingResponse} (h : m.embedSingly vs o s = (.ok r, t)) :
    r.embeddings.length = vs.length ∧ Embedding.NumberedFrom 0 r.embeddings ∧
      ∃ xs told n, m.Single vs o r s t xs told n := by
  rw [embedSingly_eq] at h
  obtain ⟨q, u, heach, hfinish⟩ := Run.bind_ok h
  obtain ⟨usage, husage, hsent, hleft, rfl⟩ := finish_ok hfinish
  obtain ⟨xs, told, hrequests, hheld, hinquiries, hgathered⟩ := embedEach_ok heach
  have hnumber : IsNumber q.tokens := IsNumber.sum (Or.inl ⟨0, rfl⟩) hgathered.tokens
  obtain ⟨n, hn, rfl⟩ := (countsOf_ok hnumber).mp husage
  have hvectors : q.embeddings.map Embedding.vector = told.map Prod.fst := hgathered.vectors
  have htells : List.Forall₂ (fun x y => Tells x.reply y.1 y.2) xs told := by
    have h := hgathered.tells
    rwa [List.forall₂_map_left_iff] at h
  refine ⟨?_, hgathered.numbered rfl, xs, told, n, ⟨?_, ?_⟩, hheld,
    hrequests, htells, hvectors, ?_, rfl, ⟨q.tokens, hgathered.tokens, hn⟩, ?_⟩
  · have hlength := congrArg List.length hvectors
    rw [List.length_map, List.length_map] at hlength
    rw [hlength, ← htells.length_eq, ← hrequests.length_eq]
  · rw [hsent, hinquiries.requests]
  · rw [hleft, hinquiries.script]
  · rw [hgathered.raw]
    rfl
  · intro ns hns
    have htotal := hgathered.tokens
    rw [hns, show ({} : Progress).tokens = .int 0 from rfl, sum_whole] at htotal
    rw [← Except.ok.inj htotal] at hn
    rw [← Except.ok.inj hn, Int.zero_add]

/-- A run over inputs ends at the first one that is not embedded. -/
theorem embed_stops (hfamily : m.family = .titan)
    (hvalues : inputs values = .ok (front ++ v :: rest)) (ho : m.options layer = .ok o)
    (hfront : m.embedEach (m.modelIdFor o) o front {} s = (.ok p, t)) :
    (∀ h u, m.ask (m.modelIdFor o) o v t = (.error h, u) → m.embed values layer s = (.error h, u)) ∧
      ∀ reply u f, m.ask (m.modelIdFor o) o v t = (.ok reply, u) →
        p.add (m.modelIdFor o) reply = .error f →
          m.embed values layer s = (.error (.fault f), u) := by
  have hembed : m.embed values layer s =
      (m.embedEach (m.modelIdFor o) o (v :: rest) p >>= m.finish o) t := by
    rw [embed_singly hfamily hvalues (by simp) ho, embedSingly_eq, embedEach_append, bind_assoc,
      Run.bind_apply_ok hfront]
  rw [hembed, embedEach_cons, bind_assoc]
  constructor
  · intro h u hask
    exact Run.bind_apply_error hask _
  · intro reply u f hask hadd
    rw [Run.bind_apply_ok hask, hadd]
    rfl

/-- What keeps an input from being embedded ends the run, and none behind it is asked about. -/
structure Stops (m : EmbeddingModel) (values : Given) (layer : Option EmbeddingOptions)
    (o : EmbeddingOptions) (front : List Given) (v : Given) (s t : Session) : Prop where
  asked : ∃ xs, List.Forall₂ (fun v x => RequestFor (m.modelIdFor o) o v x.request) front xs ∧
    (∀ x ∈ xs, x.Held m.policy) ∧ s.Inquiries t xs
  failure : ∀ h u, m.ask (m.modelIdFor o) o v t = (.error h, u) →
    m.embed values layer s = (.error h, u) ∧ ∃ sent, u.requests = t.requests ++ sent ∧
      ∀ request ∈ sent, RequestFor (m.modelIdFor o) o v request
  missing : ∀ reply u, m.ask (m.modelIdFor o) o v t = (.ok reply, u) →
    (∀ entries items, reply = .obj entries →
      Entries.get? entries "embedding" ≠ some (.list items)) →
    ∃ f, m.embed values layer s = (.error (.fault f), u) ∧ ∃ x : Inquiry,
      RequestFor (m.modelIdFor o) o v x.request ∧ x.reply = reply ∧ t.Inquiries u [x]

theorem stops (hfamily : m.family = .titan) (hvalues : inputs values = .ok (front ++ v :: rest))
    (ho : m.options layer = .ok o)
    (hfront : m.embedEach (m.modelIdFor o) o front {} s = (.ok p, t)) :
    m.Stops values layer o front v s t := by
  obtain ⟨hfailure, hmissing⟩ := embed_stops hfamily hvalues ho hfront
  refine ⟨?_, ?_, ?_⟩
  · obtain ⟨xs, told, hrequests, hheld, hinquiries, -⟩ := embedEach_ok hfront
    exact ⟨xs, hrequests, hheld, hinquiries⟩
  · intro h u hask
    refine ⟨hfailure h u hask, ?_⟩
    have hsent := sends_ask m (m.modelIdFor o) o v t
    rwa [hask] at hsent
  · intro reply u hask hlacks
    obtain ⟨x, hrequest, -, hreply, hinquiries⟩ := ask_ok hask
    cases hadd : p.add (m.modelIdFor o) reply with
    | ok q =>
        obtain ⟨xs, count, tokens, ⟨hvector, -⟩, -⟩ := Progress.add_ok.mp hadd
        exact absurd hvector (hlacks _ _ rfl)
    | error f => exact ⟨f, hmissing reply u f hask hadd, x, hrequest, hreply, hinquiries⟩

/-- **Embeddings line up with their inputs.**  As many come back as there are inputs, each in its
place with the vector that the service gave for it; and where inputs are embedded one by one, the
first that cannot be embedded is the last that is asked about. -/
theorem lines_up (m : EmbeddingModel) (values : Given) (layer : Option EmbeddingOptions)
    (s : Session) :
    (∀ r t, m.embed values layer s = (.ok r, t) →
      ∃ vs o, inputs values = .ok vs ∧ m.options layer = .ok o ∧ m.LinedUp vs o r s t) ∧
    ∀ o front v rest p t, m.family = .titan → inputs values = .ok (front ++ v :: rest) →
      m.options layer = .ok o → m.embedEach (m.modelIdFor o) o front {} s = (.ok p, t) →
        m.Stops values layer o front v s t := by
  constructor
  · intro r t h
    obtain ⟨vs, o, hvalues, hsome, ho⟩ := embed_ok h
    refine ⟨vs, o, hvalues, ho, ?_⟩
    by_cases hfamily : m.family = .titan
    · rw [embed_singly hfamily hvalues hsome ho] at h
      obtain ⟨hcount, hnumbered, hsingle⟩ := embedSingly_ok h
      exact ⟨hcount, fun i hi => hnumbered.index_eq hi, hnumbered.ordered_eq,
        fun hother => absurd hfamily hother, fun _ => hsingle⟩
    · rw [embed_jointly hfamily hvalues hsome ho] at h
      obtain ⟨hcount, hnumbered, hjoint⟩ := embedJointly_ok h
      exact ⟨hcount, fun i hi => hnumbered.index_eq hi, hnumbered.ordered_eq, fun _ => hjoint,
        fun hother => absurd hother hfamily⟩
  · intro o front v rest p t hfamily hvalues ho hfront
    exact stops hfamily hvalues ho hfront

/-! ### Two families on a script -/

/-- The bytes of an ASCII text. -/
def spelling (text : String) : List UInt8 :=
  text.toList.map fun c => UInt8.ofNat c.toNat

/-- An answer with a body. -/
def holding (b : List UInt8) : Value Attachment :=
  .obj [("body", .leaf (.body b))]

/-- A reply whose body is a text. -/
def answering (text : String) : Reply :=
  .answer (holding (spelling text))

/-- A service that is too busy. -/
def busy : Reply :=
  .failure (.refused (.obj [("Error", .obj [("Code", .str "ThrottlingException")])]) "InvokeModel")

def titan : EmbeddingModel :=
  { family := .titan, defaults := { family := .titan }
    modelId := "amazon.titan-embed-image-v1" }

def cohere : EmbeddingModel :=
  { family := .cohere, defaults := { family := .cohere }
    modelId := "cohere.embed-multilingual-v3" }

/-- The bodies of all requests that were sent. -/
def bodiesSent (s : Session) : List (Option String) :=
  s.requests.map fun request => (request.get? "body").bind Value.asString?

/-- A service that answers the second time it is asked, and once more. -/
def hesitant : Session where
  replies := [busy, answering "\x7b\"embedding\": [1, 2], \"inputTextTokenCount\": 3\x7d",
    answering "\x7b\"embedding\": [3, 4]\x7d"]

/-- A service that answers once. -/
def curt : Session where
  replies := [answering "\x7b\"embedding\": [1, 2]\x7d", answering "\x7b\x7d"]

/-- A run that can be seen to end with a value ends with one. -/
theorem exists_of_toOption {α β : Type} {x : Except Halt α × Session} {f : α → β} {b : β}
    (h : x.1.toOption.map f = some b) : ∃ a, x = (.ok a, x.2) ∧ f a = b := by
  rcases x with ⟨_ | a, t⟩
  · cases h
  · exact ⟨a, rfl, Option.some.inj h⟩

theorem two_texts_line_up :
    (∃ r t, titan.embed (.list [.str "one", .str "two"]) none hesitant = (.ok r, t) ∧
      titan.LinedUp [.str "one", .str "two"] { family := .titan } r hesitant t ∧
      Embedding.ordered r.embeddings = [[1, 2], [3, 4]] ∧ r.usage = some ⟨some 3, none, some 3⟩) ∧
    ∃ f t, titan.embed (.list [.str "one", .str "two", .str "three"]) none curt =
        (.error (.fault f), t) ∧
      bodiesSent t = [some "\x7b\"inputText\": \"one\"\x7d",
        some "\x7b\"inputText\": \"two\"\x7d"] := by
  constructor
  · have hrun : (titan.embed (.list [.str "one", .str "two"]) none hesitant).1.toOption.map
        (fun r => (r.embeddings.map Embedding.vector, r.usage)) =
          some ([[1, 2], [3, 4]], some ⟨some 3, none, some 3⟩) := by
      decide +kernel
    obtain ⟨r, hembed, hr⟩ := exists_of_toOption hrun
    obtain ⟨vs, o, hvalues, ho, hlined⟩ := (lines_up _ _ _ _).1 r _ hembed
    obtain rfl := Except.ok.inj hvalues
    obtain rfl := Except.ok.inj ho
    obtain ⟨hvectors, husage⟩ := Prod.mk.inj hr
    exact ⟨r, _, hembed, hlined, hlined.ordered.trans hvectors, husage⟩
  · have hfront : (titan.embedEach titan.modelId { family := .titan } [.str "one"] {}
        curt).1.toOption.map (fun p => p.raw.length) = some 1 := by
      decide +kernel
    obtain ⟨p, hp, -⟩ := exists_of_toOption hfront
    have hask : (titan.ask titan.modelId { family := .titan } (.str "two")
        (titan.embedEach titan.modelId { family := .titan } [.str "one"] {}
          curt).2).1.toOption.map (fun reply => (reply.get? "embedding").isNone) = some true := by
      decide +kernel
    obtain ⟨reply, hreply, hnone⟩ := exists_of_toOption hask
    have hstops := (lines_up titan (.list [.str "one", .str "two", .str "three"]) none curt).2
      { family := .titan } [.str "one"] (.str "two") [.str "three"] p _ rfl rfl rfl hp
    obtain ⟨f, hf, -⟩ := hstops.missing reply _ hreply fun entries items hobj hfound => by
      rw [hobj, Value.get?, hfound] at hnone
      cases hnone
    exact ⟨f, _, hf, by decide +kernel⟩

/-- Properties are written over the texts themselves, and a request that fails for a while is sent
again. -/
theorem texts_written_over :
    (∃ r t, cohere.embed (.list [.str "a"])
        (some { family := .cohere, properties := [("texts", .list [.str "b"])] })
        { replies := [answering "\x7b\"embeddings\": [[1]]\x7d"] } = (.ok r, t) ∧
      bodiesSent t = [some ("\x7b\"texts\": [\"b\"], \"input_type\": \"search_document\", " ++
        "\"truncate\": \"NONE\"\x7d")]) ∧
    ∃ r t, titan.embed (.list [.str "one"]) none hesitant = (.ok r, t) ∧
      bodiesSent t = [some "\x7b\"inputText\": \"one\"\x7d",
        some "\x7b\"inputText\": \"one\"\x7d"] := by
  constructor
  · have hrun : (cohere.embed (.list [.str "a"])
        (some { family := .cohere, properties := [("texts", .list [.str "b"])] })
        { replies := [answering "\x7b\"embeddings\": [[1]]\x7d"] }).1.toOption.map
          (fun r => r.embeddings.length) = some 1 := by
      decide +kernel
    obtain ⟨r, hembed, -⟩ := exists_of_toOption hrun
    exact ⟨r, _, hembed, by decide +kernel⟩
  · have hrun : (titan.embed (.list [.str "one"]) none hesitant).1.toOption.map
        (fun r => r.embeddings.length) = some 1 := by
      decide +kernel
    obtain ⟨r, hembed, -⟩ := exists_of_toOption hrun
    exact ⟨r, _, hembed, by decide +kernel⟩

end EmbeddingModel

end Parley
