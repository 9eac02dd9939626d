/-
Inputs that cannot be embedded.

Data cannot be embedded by the family that takes texts, and only images can by the other.  The first
family looks at all inputs before it asks about any.  The other makes each request when its turn
comes, and finds out then what the input is; so an input that it cannot embed is refused before
anything is sent only where it is the first, and otherwise those in front of it are asked about.
-/
import Parley.Proofs.Embeddings
import Parley.Proofs.Printer

namespace Parley

/-! ### What keeps a request from being made -/

theorem jsonBody_error {v : Document} {f : Fault} (h : jsonBody v = .error f) :
    f.stage? = none := by
  rcases Json.write_error h with ⟨n, hn⟩ | ⟨b, hb⟩ | ⟨a, ha⟩
  · unfold wholeText at hn
    split at hn
    · rw [← Except.error.inj hn]
      rfl
    · cases hn
  · rw [← Except.error.inj hb]
    rfl
  · rw [← Except.error.inj ha]
    rfl

theorem Data.bytes_error {d : Data} {f : Fault} (h : d.bytes = .error f) : f.stage? = none := by
  unfold bytes at h
  split at h
  case h_1 =>
    rw [← Except.error.inj h]
    rfl
  case h_2 =>
    split at h
    case h_1 => cases h
    case h_2 flaw _ =>
      rw [← Except.error.inj h]
      cases flaw <;> rfl

/-- What comes behind a request that is sent takes it back no more. -/
theorem Run.Insists.sent_bind {α β : Type} {request : Document} {x : Run α} {f : α → Run β}
    {P : Document → Prop} (hx : Insists request x) (hf : ∀ a, Sends P (f a)) (s : Session) :
    ∃ sent, ((x >>= f) s).2.requests = s.requests ++ request :: sent := by
  obtain ⟨k, hk⟩ := hx s
  rw [List.replicate_succ] at hk
  rw [bind_apply]
  rcases h : x s with ⟨e | a, t⟩ <;> rw [h] at hk
  · exact ⟨_, hk⟩
  · obtain ⟨sent, hsent, -⟩ := hf a t
    refine ⟨List.replicate k request ++ sent, ?_⟩
    dsimp only at hk ⊢
    rw [hsent, hk, List.append_assoc, List.cons_append]

namespace EmbeddingModel

variable {m : EmbeddingModel} {layer : Option EmbeddingOptions} {o : EmbeddingOptions}
  {id : String} {values v : Given} {vs front rest : List Given} {p : Progress} {s t : Session}
  {f : Fault}

/-! ### Texts and data -/

/-- A text, or data. -/
inductive IsInput : Given → Prop
  | text (text : String) : IsInput (.str text)
  | data (d : Data) (raw : Document) (properties : Option Properties) :
      IsInput (.leaf (.content ⟨.data d, raw, properties⟩))

/-- Data that a family cannot embed: any, or any but images. -/
inductive Unsupported (family : EmbeddingFamily) : Given → Prop
  | data {d : Data} {raw : Document} {properties : Option Properties}
      (h : family = .titan → d.hasTopLevel "image" = false) :
      Unsupported family (.leaf (.content ⟨.data d, raw, properties⟩))

/-- Refuse inputs before anything is asked. -/
def Refuses (m : EmbeddingModel) (values : Given) (layer : Option EmbeddingOptions) (s : Session) :
    Prop :=
  ∃ f t, m.embed values layer s = (.error (.fault f), t) ∧ f.stage? = some .request ∧
    t.requests = s.requests

theorem options_error (h : m.options layer = .error f) : f.stage? = some .request := by
  unfold options at h
  split at h
  case h_1 => cases h
  case h_2 g hmerge =>
    have hbad : g.isBadValue = true := by
      cases layer with
      | none => cases hmerge
      | some top =>
          obtain ⟨issues, rfl⟩ := Checked.orInvalid_error hmerge
          rfl
    rw [if_pos hbad] at h
    rw [← Except.error.inj h]
    rfl

theorem embed_options_error (hvalues : inputs values = .ok vs) (hsome : vs ≠ [])
    (h : m.options layer = .error f) : m.embed values layer = Run.fail f := by
  unfold embed
  rw [hvalues]
  show (if vs.isEmpty then _ else _) = _
  rw [if_neg (by simpa using hsome), h]
  rfl

/-! ### All inputs in one request -/

/-- Where there is data among the inputs, they are not all texts. -/
theorem textsOf_data (h : ∃ v ∈ vs, Unsupported m.family v) : textsOf vs = .error notText := by
  cases htexts : textsOf vs with
  | ok texts =>
      obtain ⟨v, hv, hdata⟩ := h
      rw [textsOf_ok htexts] at hv
      obtain ⟨text, -, rfl⟩ := List.mem_map.mp hv
      cases hdata
  | error f =>
      unfold textsOf at htexts
      split at htexts <;> cases htexts
      rfl

theorem embedJointly_data (h : ∃ v ∈ vs, Unsupported m.family v) :
    m.embedJointly vs o s = (.error (.fault notText), s) := by
  unfold embedJointly
  rw [textsOf_data h]
  rfl

/-! ### One input a request -/

theorem inputEntry_unsupported (o : EmbeddingOptions) (h : Unsupported .titan v) :
    ∃ f, inputEntry o v = .error f ∧ f.stage? = some .request := by
  cases h with
  | data h =>
      unfold inputEntry
      dsimp only
      rw [if_neg (by simp [h rfl])]
      exact ⟨_, rfl, rfl⟩

/-- Nothing is asked about an input that is not supported. -/
theorem ask_unsupported (m : EmbeddingModel) (id : String) (o : EmbeddingOptions)
    (h : Unsupported .titan v) : ∃ f, m.ask id o v = Run.fail f ∧ f.stage? = some .request := by
  obtain ⟨f, hf, hstage⟩ := inputEntry_unsupported o h
  refine ⟨f, ?_, hstage⟩
  unfold ask singleBody
  rw [hf]
  rfl

/-- The inputs in front of one that is not supported are embedded, and then it is refused. -/
theorem embed_unsupported (hfamily : m.family = .titan)
    (hvalues : inputs values = .ok (front ++ v :: rest)) (ho : m.options layer = .ok o)
    (h : Unsupported .titan v) :
    ∃ f, f.stage? = some .request ∧ m.embed values layer =
      m.embedEach (m.modelIdFor o) o front {} >>= fun _ => Run.fail f := by
  obtain ⟨f, hask, hstage⟩ := ask_unsupported m (m.modelIdFor o) o h
  refine ⟨f, hstage, ?_⟩
  rw [embed_singly hfamily hvalues (by simp) ho, embedSingly_eq, embedEach_append, bind_assoc]
  refine bind_congr fun p => ?_
  rw [embedEach_cons, hask]
  rfl

theorem embed_unsupported_first (hfamily : m.family = .titan)
    (hvalues : inputs values = .ok (v :: rest)) (ho : m.options layer = .ok o)
    (h : Unsupported .titan v) :
    ∃ f, f.stage? = some .request ∧ m.embed values layer = Run.fail f := by
  rw [← List.nil_append (v :: rest)] at hvalues
  obtain ⟨f, hstage, hembed⟩ := embed_unsupported hfamily hvalues ho h
  exact ⟨f, hstage, hembed⟩

/-- What keeps a supported input from being asked about is no fault with the request. -/
theorem singleBody_error (hkind : IsInput v) (hv : ¬ Unsupported .titan v)
    (h : singleBody o v = .error f) : f.stage? = none := by
  rcases Outcome.bind_error.mp h with hentry | ⟨entry, -, hdone⟩
  · cases hkind with
    | text text => cases hentry
    | data d raw properties =>
        unfold inputEntry at hentry
        dsimp only at hentry
        by_cases himage : d.hasTopLevel "image" = true
        · rw [if_pos himage] at hentry
          exact Data.bytes_error (Outcome.map_error.mp hentry)
        · exact absurd (.data fun _ => by simpa using himage) hv
  · cases hdone

theorem sends_embedEach (m : EmbeddingModel) (id : String) (o : EmbeddingOptions)
    (vs : List Given) (p : Progress) :
    Run.Sends (fun request => ∃ v ∈ vs, RequestFor id o v request) (m.embedEach id o vs p) := by
  induction vs generalizing p with
  | nil => exact .of_quiet (.pure p)
  | cons v rest ih =>
      rw [embedEach_cons]
      refine Run.Sends.bind ?_ fun reply => Run.Sends.bind (.ofExcept _) fun q => ?_
      · exact (sends_ask m id o v).mono fun request h => ⟨v, by simp, h⟩
      · refine (ih q).mono fun request h => ?_
        obtain ⟨w, hw, hrequest⟩ := h
        exact ⟨w, by simp [hw], hrequest⟩

theorem sends_finish (P : Document → Prop) (m : EmbeddingModel) (o : EmbeddingOptions)
    (p : Progress) : Run.Sends P (m.finish o p) :=
  .bind (.ofExcept _) fun _ => .bind (.of_apply fun _ => rfl) fun _ =>
    .bind (.ofExcept _) fun _ => .of_quiet (.pure _)

/-- A supported input that comes first is asked about, or something else than a refused request
keeps it from being asked about. -/
theorem ask_supported {α : Type} {next : Document → Run α} {P : Document → Prop}
    (hkind : IsInput v) (hv : ¬ Unsupported .titan v) (hnext : ∀ reply, Run.Sends P (next reply))
    (s : Session) :
    (∃ f t, (m.ask id o v >>= next) s = (.error (.fault f), t) ∧ f.stage? = none) ∨
      ∃ request sent, ((m.ask id o v >>= next) s).2.requests = s.requests ++ request :: sent := by
  unfold ask
  cases hbody : singleBody o v with
  | error f => exact Or.inl ⟨f, s, rfl, singleBody_error hkind hv hbody⟩
  | ok body =>
      cases htext : jsonBody body with
      | error f =>
          have hinvoke : ∃ t,
              (Endpoint.invoke m.policy (.str id) body) s = (.error (.fault f), t) := by
            unfold Endpoint.invoke
            rw [Run.bind_apply_ok (Endpoint.announce_apply _ _ _), htext]
            exact ⟨_, rfl⟩
          obtain ⟨t, ht⟩ := hinvoke
          exact Or.inl ⟨f, t, Run.bind_apply_error ht next, jsonBody_error htext⟩
      | ok text =>
          obtain ⟨sent, hsent⟩ :=
            (Endpoint.insists_invoke m.policy (.str id) htext).sent_bind hnext s
          exact Or.inr ⟨_, sent, hsent⟩

/-- Where the first input is supported, the others are not looked at before it is asked about. -/
theorem not_refuses (hfamily : m.family = .titan) (hvalues : inputs values = .ok (v :: rest))
    (ho : m.options layer = .ok o) (hkind : IsInput v) (hv : ¬ Unsupported .titan v) :
    ¬ m.Refuses values layer s := by
  rintro ⟨f, t, hembed, hstage, hrequests⟩
  rw [embed_singly hfamily hvalues (by simp) ho, embedSingly_eq, embedEach_cons,
    bind_assoc] at hembed
  have hnext : ∀ reply, Run.Sends (fun _ => True)
      ((Run.ofExcept (({} : Progress).add (m.modelIdFor o) reply) >>= fun p =>
        m.embedEach (m.modelIdFor o) o rest p) >>= m.finish o) := by
    intro reply
    refine Run.Sends.bind (.bind (.ofExcept _) fun p => ?_) fun p => sends_finish _ m o p
    exact (sends_embedEach m _ o rest p).mono fun _ _ => trivial
  rcases ask_supported hkind hv hnext s with ⟨g, u, hg, hnone⟩ | ⟨request, sent, hsent⟩
  · rw [hg] at hembed
    cases hembed
    rw [hnone] at hstage
    cases hstage
  · rw [hembed, hrequests] at hsent
    simp at hsent

theorem ne_nil_of_unsupported (h : ∃ v ∈ vs, Unsupported m.family v) : vs ≠ [] := by
  rintro rfl
  obtain ⟨v, hv, -⟩ := h
  cases hv

/-- The family that takes texts looks at all inputs before it asks about any. -/
theorem refuses_jointly (hfamily : m.family ≠ .titan) (hvalues : inputs values = .ok vs)
    (ho : m.options layer = .ok o) (h : ∃ v ∈ vs, Unsupported m.family v) :
    m.embed values layer s = (.error (.fault notText), s) := by
  rw [embed_jointly hfamily hvalues (ne_nil_of_unsupported h) ho]
  exact embedJointly_data h

/-- All that an unsupported input has to be refused for is that it is looked at in time. -/
theorem refuses_of (hvalues : inputs values = .ok vs)
    (hunsupported : ∃ v ∈ vs, Unsupported m.family v)
    (h : m.family ≠ .titan ∨ (∃ f, m.options layer = .error f) ∨
      ∃ v rest, vs = v :: rest ∧ Unsupported m.family v) : m.Refuses values layer s := by
  cases ho : m.options layer with
  | error f =>
      rw [Refuses, embed_options_error hvalues (ne_nil_of_unsupported hunsupported) ho]
      exact ⟨f, s, rfl, options_error ho, rfl⟩
  | ok o =>
      by_cases hfamily : m.family = .titan
      · rcases h with hother | ⟨f, hf⟩ | ⟨v, rest, rfl, hv⟩
        · exact absurd hfamily hother
        · cases ho.symm.trans hf
        · rw [hfamily] at hv
          obtain ⟨f, hstage, hembed⟩ := embed_unsupported_first hfamily hvalues ho hv
          rw [Refuses, hembed]
          exact ⟨f, s, rfl, hstage, rfl⟩
      · exact ⟨notText, s, refuses_jointly hfamily hvalues ho hunsupported, rfl, rfl⟩

/-- With an unsupported input nothing is embedded. -/
theorem exists_error_of_unsupported (hvalues : inputs values = .ok vs)
    (h : ∃ v ∈ vs, Unsupported m.family v) : ∃ e, (m.embed values layer s).1 = .error e := by
  cases ho : m.options layer with
  | error f =>
      rw [embed_options_error hvalues (ne_nil_of_unsupported h) ho]
      exact ⟨_, rfl⟩
  | ok o =>
      by_cases hfamily : m.family = .titan
      · obtain ⟨v, hv, hdata⟩ := h
        obtain ⟨front, rest, rfl⟩ := List.append_of_mem hv
        rw [hfamily] at hdata
        obtain ⟨f, -, hembed⟩ := embed_unsupported hfamily hvalues ho hdata
        rw [hembed, Run.bind_apply]
        rcases m.embedEach (m.modelIdFor o) o front {} s with ⟨e | p, t⟩
        · exact ⟨e, rfl⟩
        · exact ⟨_, rfl⟩
      · rw [refuses_jointly hfamily hvalues ho h]
        exact ⟨_, rfl⟩

/-- **An unsupported input is refused before anything is asked exactly where it comes first**, or
where the family looks at all inputs before, or the options are refused.  Wherever it stands,
nothing is returned, and none but the inputs in front of it are asked about; and when these are
embedded, it is refused. -/
theorem refuses_unsupported_iff (m : EmbeddingModel) (values : Given)
    (layer : Option EmbeddingOptions) (s : Session) {vs : List Given}
    (hvalues : inputs values = .ok vs) (hkinds : ∀ v ∈ vs, IsInput v)
    (hunsupported : ∃ v ∈ vs, Unsupported m.family v) :
    (m.Refuses values layer s ↔
      m.family ≠ .titan ∨ (∃ f, m.options layer = .error f) ∨
        ∃ v rest, vs = v :: rest ∧ Unsupported m.family v) ∧
    (∃ h, (m.embed values layer s).1 = .error h) ∧
    ∀ o front v rest, m.family = .titan → m.options layer = .ok o → vs = front ++ v :: rest →
      Unsupported m.family v →
        (∃ sent, (m.embed values layer s).2.requests = s.requests ++ sent ∧
          ∀ request ∈ sent, ∃ w ∈ front, RequestFor (m.modelIdFor o) o w request) ∧
        ∀ p t, m.embedEach (m.modelIdFor o) o front {} s = (.ok p, t) →
          ∃ f, m.embed values layer s = (.error (.fault f), t) ∧ f.stage? = some .request := by
  refine ⟨⟨?_, refuses_of hvalues hunsupported⟩, exists_error_of_unsupported hvalues hunsupported,
    ?_⟩
  · intro hrefuses
    by_contra hnone
    push Not at hnone
    obtain ⟨hfamily, hoptions, hfirst⟩ := hnone
    obtain ⟨v, rest, rfl⟩ := List.exists_cons_of_ne_nil (ne_nil_of_unsupported hunsupported)
    cases ho : m.options layer with
    | error f => exact hoptions f ho
    | ok o =>
        rw [hfamily] at hfirst
        exact not_refuses hfamily hvalues ho (hkinds v (by simp)) (hfirst v rest rfl) hrefuses
  · rintro o front v rest hfamily ho rfl hv
    rw [hfamily] at hv
    obtain ⟨f, hstage, hembed⟩ := embed_unsupported hfamily hvalues ho hv
    rw [hembed]
    constructor
    · exact Run.Sends.bind (sends_embedEach m _ o front {}) (fun _ => .of_quiet (.fail f)) s
    · intro p t hfront
      exact ⟨f, Run.bind_apply_ok hfront _, hstage⟩

/-- Data that is no image. -/
def pdf : Given :=
  .leaf (.content ⟨.data ⟨"data:application/pdf;base64,JVBERg==", some "application/pdf"⟩, .null,
    none⟩)

theorem unsupported_pdf (family : EmbeddingFamily) : Unsupported family pdf :=
  .data fun _ => by decide

/-- Data that is no image is refused before anything is asked where it comes first. -/
theorem pdf_first_refused : titan.Refuses (.list [pdf, .str "one"]) none {} := by
  refine (refuses_unsupported_iff titan (.list [pdf, .str "one"]) none {} rfl ?_ ?_).1.mpr ?_
  · intro v hv
    simp only [List.mem_cons, List.not_mem_nil, or_false] at hv
    rcases hv with rfl | rfl
    · exact .data _ _ _
    · exact .text "one"
  · exact ⟨pdf, by simp, unsupported_pdf _⟩
  · exact Or.inr (Or.inr ⟨pdf, _, rfl, unsupported_pdf _⟩)

/-- Behind a text it is refused when the text has been asked about. -/
theorem pdf_behind_text :
    let s : Session := { replies := [answering "\x7b\"embedding\": [1]\x7d"] }
    ¬ titan.Refuses (.list [.str "one", pdf]) none s ∧
      bodiesSent (titan.embed (.list [.str "one", pdf]) none s).2 =
        [some "\x7b\"inputText\": \"one\"\x7d"] := by
  intro s
  have hsent : bodiesSent (titan.embed (.list [.str "one", pdf]) none s).2 =
      [some "\x7b\"inputText\": \"one\"\x7d"] := by
    decide +kernel
  refine ⟨?_, hsent⟩
  rintro ⟨f, t, hembed, -, hrequests⟩
  rw [hembed, bodiesSent, hrequests] at hsent
  cases hsent

end EmbeddingModel

end Parley
