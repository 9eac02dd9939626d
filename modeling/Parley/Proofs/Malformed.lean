/-
Replies of any shape.

A body that the service answers with may spell anything, or nothing.  The library promises a vector
for each input, or a fault that says that the reply is at fault.  It keeps the promise for bodies
that spell no data and for data in which the vectors are missing.  Behind that the replies are taken
at their word: vectors have to hold numbers, and counts have to add up to a whole number, or a fault
of another making gets out.  Which replies are orderly is said here one body after the other, as
they are read, and the promise is kept by orderly replies and by no others.
-/
import Parley.Proofs.Embeddings

namespace Parley

/-! ### Bodies -/

namespace Endpoint

/-- Bytes that spell no data. -/
def Garbled (b : List UInt8) : Prop :=
  ∃ f, readBody b = .error (notJson f)

/-- A body that is not read spells no data, or data that cannot be taken in. -/
theorem readBody_error {b : List UInt8} {f : Fault} (h : readBody b = .error f) :
    (∃ g, f = notJson g) ∨ f.stage? = none := by
  unfold readBody at h
  split at h
  case h_1 => exact Or.inl ⟨_, (Except.error.inj h).symm⟩
  case h_2 cs _ =>
    split at h
    case h_1 => cases h
    case h_2 flaw _ =>
      cases flaw with
      | syntaxError => exact Or.inl ⟨_, (Except.error.inj h).symm⟩
      | longNumber n =>
          rw [← Except.error.inj h]
          exact Or.inr rfl
      | tooDeep =>
          rw [← Except.error.inj h]
          exact Or.inr rfl

theorem Garbled.not_read {b : List UInt8} {reply : Document} (h : Garbled b) :
    readBody b ≠ .ok reply := by
  obtain ⟨f, hf⟩ := h
  rw [hf]
  exact fun hread => by cases hread

/-- Bytes that spell no data are reported as a reply that is at fault. -/
theorem Garbled.stage {b : List UInt8} {f : Fault} (h : Garbled b) (hb : readBody b = .error f) :
    f.stage? = some .response := by
  obtain ⟨g, hg⟩ := h
  rw [← Except.error.inj (hg.symm.trans hb)]
  rfl

end Endpoint

namespace EmbeddingModel

variable {m : EmbeddingModel} {layer : Option EmbeddingOptions} {o : EmbeddingOptions}
  {id : String} {values : Given} {vs : List Given} {n : Nat} {f : Fault} {P : Prop}

/-! ### The promise -/

/-- The promise: a vector for each of so many inputs, or a fault with the reply. -/
def Kept (n : Nat) (x : Except Halt EmbeddingResponse) : Prop :=
  (∃ r, x = .ok r ∧ r.embeddings.length = n) ∨
    ∃ f, x = .error (.fault f) ∧ f.stage? = some .response

/-- A fault that is none of the library's own. -/
def Escapes (x : Except Halt EmbeddingResponse) : Prop :=
  ∃ f, x = .error (.fault f) ∧ f.stage? = none

/-- The promise is kept under a condition, and without it a fault of another making gets out. -/
structure KeepsIf (n : Nat) (P : Prop) (x : Except Halt EmbeddingResponse) : Prop where
  kept : Kept n x ↔ P
  escapes : Escapes x ↔ ¬ P

namespace KeepsIf

theorem of_ok {r : EmbeddingResponse} (hr : r.embeddings.length = n) (hP : P) :
    KeepsIf n P (.ok r) := by
  refine ⟨iff_of_true (Or.inl ⟨r, rfl, hr⟩) hP, iff_of_false ?_ (not_not_intro hP)⟩
  rintro ⟨f, hf, -⟩
  cases hf

theorem of_response (hf : f.stage? = some .response) (hP : P) :
    KeepsIf n P (.error (.fault f)) := by
  refine ⟨iff_of_true (Or.inr ⟨f, rfl, hf⟩) hP, iff_of_false ?_ (not_not_intro hP)⟩
  rintro ⟨g, hg, hnone⟩
  cases hg
  cases hf.symm.trans hnone

theorem of_other (hf : f.stage? = none) (hP : ¬ P) : KeepsIf n P (.error (.fault f)) := by
  refine ⟨iff_of_false ?_ hP, iff_of_true ⟨f, rfl, hf⟩ hP⟩
  rintro (⟨r, hr, -⟩ | ⟨g, hg, hresponse⟩)
  · cases hr
  · cases hg
    cases hf.symm.trans hresponse

theorem congr {Q : Prop} {x : Except Halt EmbeddingResponse} (h : KeepsIf n P x) (hPQ : P ↔ Q) :
    KeepsIf n Q x := by
  rwa [← propext hPQ]

end KeepsIf

/-! ### All vectors in one reply -/

/-- A body that a request for so many inputs may be answered with: one that spells no data, or a
dictionary whose vectors, if there are as many, all run through numbers. -/
inductive OrderlyJoint (n : Nat) (b : List UInt8) : Prop
  | garbled (h : Endpoint.Garbled b)
  | read {entries : Properties} (h : Endpoint.readBody b = .ok (.obj entries))
      (numbers : ∀ vectors, Holds entries vectors → vectors.length = n →
        ∀ v ∈ vectors, ∃ xs, RunsThrough v xs)

/-- Vectors are read as numbers, unless there is one that does not run through numbers. -/
theorem exists_embeddingsFrom (i : Nat) {vectors : List Document} :
    (∃ es, embeddingsFrom i vectors = .ok es) ↔ ∀ v ∈ vectors, ∃ xs, RunsThrough v xs := by
  induction vectors generalizing i with
  | nil => simp [embeddingsFrom]
  | cons v rest ih =>
      rw [List.forall_mem_cons, ← ih (i + 1)]
      constructor
      · rintro ⟨es, hes⟩
        obtain ⟨xs, more, hxs, hmore, -⟩ := embeddingsFrom_cons.mp hes
        exact ⟨⟨xs, hxs⟩, more, hmore⟩
      · rintro ⟨⟨xs, hxs⟩, more, hmore⟩
        exact ⟨_, embeddingsFrom_cons.mpr ⟨xs, more, hxs, hmore, rfl⟩⟩

theorem orderlyJoint_iff {b : List UInt8} {entries : Properties} {vectors : List Document}
    (h : Endpoint.readBody b = .ok (.obj entries)) (hholds : Holds entries vectors) :
    OrderlyJoint vectors.length b ↔ ∀ v ∈ vectors, ∃ xs, RunsThrough v xs := by
  constructor
  · intro horderly
    cases horderly with
    | garbled hgarbled => exact absurd h hgarbled.not_read
    | read hread hnumbers =>
        cases h.symm.trans hread
        exact hnumbers vectors hholds rfl
  · intro hall
    refine .read h fun others hothers _ => ?_
    rwa [← hholds.unique hothers]

/-- Put the answer together from the vectors of a reply. -/
def finishJointly (m : EmbeddingModel) (o : EmbeddingOptions) (n : Nat) (reply : Document) :
    Run EmbeddingResponse := do
  let embeddings ← Run.ofExcept (readJoint (m.modelIdFor o) n reply)
  return { embeddings, modelId := some (m.modelIdFor o), raw := reply }

theorem finishJointly_keeps {b : List UInt8} {reply : Document} {s : Session}
    (h : Endpoint.readBody b = .ok reply) :
    KeepsIf n (OrderlyJoint n b) (m.finishJointly o n reply s).1 := by
  unfold finishJointly
  cases reply with
  | obj entries =>
      by_cases hfound : ∃ vectors, Holds entries vectors ∧ vectors.length = n
      · obtain ⟨vectors, hholds, rfl⟩ := hfound
        rw [readJoint_of_holds _ hholds]
        refine KeepsIf.congr ?_ (orderlyJoint_iff h hholds).symm
        refine KeepsIf.congr ?_ (exists_embeddingsFrom 0)
        cases hes : embeddingsFrom 0 vectors with
        | ok es => exact .of_ok (embeddingsFrom_ok.mp hes).1.length_eq.symm ⟨es, rfl⟩
        | error f =>
            refine .of_other (embeddingsFrom_error hes) ?_
            rintro ⟨es, hok⟩
            cases hok
      · push Not at hfound
        rw [readJoint_of_lacks _ hfound]
        exact .of_response rfl
          (.read h fun vectors hholds hlength => absurd hlength (hfound vectors hholds))
  | _ =>
      refine .of_other rfl fun horderly => ?_
      cases horderly with
      | garbled hgarbled => exact absurd h hgarbled.not_read
      | read hread => cases h.symm.trans hread

/-- **What one request for all inputs is answered with is orderly exactly where the promise is
kept.** -/
theorem embedJointly_keeps {texts : List String} {text : String} {s : Session}
    {a : Value Attachment} {b : List UInt8} {rest : List Reply} (htexts : textsOf vs = .ok texts)
    (hbody : jsonBody (jointBody texts o) = .ok text) (hb : Endpoint.bodyOf a = .ok b)
    (hreplies : s.replies = .answer a :: rest) :
    KeepsIf vs.length (OrderlyJoint vs.length b) (m.embedJointly vs o s).1 := by
  have hrun : m.embedJointly vs o =
      Endpoint.invoke m.policy (.str (m.modelIdFor o)) (jointBody texts o) >>=
        m.finishJointly o vs.length := by
    unfold embedJointly
    rw [htexts]
    rfl
  obtain ⟨t, hinvoke, -⟩ :=
    Endpoint.invoke_answer m.policy (.str (m.modelIdFor o)) hbody hreplies
  rw [hb, Outcome.ok_bind] at hinvoke
  rw [hrun]
  cases hread : Endpoint.readBody b with
  | error f =>
      rw [hread] at hinvoke
      rw [Run.bind_apply_error hinvoke]
      rcases Endpoint.readBody_error hread with ⟨g, rfl⟩ | hnone
      · exact .of_response rfl (.garbled ⟨g, hread⟩)
      · refine .of_other hnone fun horderly => ?_
        cases horderly with
        | garbled hgarbled => cases hnone.symm.trans (hgarbled.stage hread)
        | read hread' => cases hread.symm.trans hread'
  | ok reply =>
      rw [hread] at hinvoke
      rw [Run.bind_apply_ok hinvoke]
      exact finishJointly_keeps hread

/-! ### One vector a reply -/

/-- Bodies that requests for inputs may be answered with, one behind the other, where so much was
counted before.  The first that spells no data or lacks its vector is the last that matters; else
each holds numbers, and the counts add up to a whole number that can be written. -/
inductive Orderly : Document → List (List UInt8) → Prop
  | garbled {counted : Document} {b : List UInt8} {rest : List (List UInt8)}
      (h : Endpoint.Garbled b) : Orderly counted (b :: rest)
  | lacking {counted reply : Document} {b : List UInt8} {rest : List (List UInt8)}
      (h : Endpoint.readBody b = .ok reply) (lacks : Lacks reply) : Orderly counted (b :: rest)
  | next {counted total reply count : Document} {xs : List Float} {b : List UInt8}
      {rest : List (List UInt8)} (h : Endpoint.readBody b = .ok reply)
      (tells : Tells reply xs count) (added : counted.plus count = .ok total)
      (later : Orderly total rest) : Orderly counted (b :: rest)
  | done {counted : Document} {k : Int} (writable : counted.writable = .ok ())
      (whole : Check.int counted = .ok k) : Orderly counted []

namespace Orderly

variable {counted total reply count : Document} {xs : List Float} {b : List UInt8}
  {rest : List (List UInt8)}

theorem not_of_unread (h : Endpoint.readBody b = .error f) (hf : f.stage? = none) :
    ¬ Orderly counted (b :: rest) := by
  intro horderly
  cases horderly with
  | garbled hgarbled => cases hf.symm.trans (hgarbled.stage h)
  | lacking hread => cases h.symm.trans hread
  | next hread => cases h.symm.trans hread

theorem not_of_unadded {p : Progress} (h : Endpoint.readBody b = .ok reply)
    (hadd : p.add id reply = .error f) (hf : f.stage? = none) :
    ¬ Orderly p.tokens (b :: rest) := by
  intro horderly
  cases horderly with
  | garbled hgarbled => exact hgarbled.not_read h
  | lacking hread hlacks =>
      cases h.symm.trans hread
      cases (Progress.add_lacks hlacks).symm.trans hadd
      cases hf
  | next hread htells hadded =>
      cases h.symm.trans hread
      cases hadd.symm.trans (Progress.add_ok.mpr ⟨_, _, _, htells, hadded, rfl⟩)

theorem next_iff (h : Endpoint.readBody b = .ok reply) (htells : Tells reply xs count)
    (hadded : counted.plus count = .ok total) :
    Orderly counted (b :: rest) ↔ Orderly total rest := by
  constructor
  · intro horderly
    cases horderly with
    | garbled hgarbled => exact absurd h hgarbled.not_read
    | lacking hread hlacks =>
        cases h.symm.trans hread
        obtain ⟨entries, hentries, hnone⟩ := hlacks
        cases htells with
        | mk hvector _ =>
            cases hentries
            exact absurd hvector (hnone _)
    | next hread htells' hadded' hlater =>
        cases h.symm.trans hread
        cases htells
        cases htells'
        cases hadded.symm.trans hadded'
        exact hlater
  · exact .next h htells hadded

theorem done_iff :
    Orderly counted [] ↔ counted.writable = .ok () ∧ ∃ k, Check.int counted = .ok k := by
  constructor
  · intro h
    cases h with
    | done hwritable hwhole => exact ⟨hwritable, _, hwhole⟩
  · rintro ⟨hwritable, k, hwhole⟩
    exact .done hwritable hwhole

end Orderly

theorem writable_error {v : Document} (h : v.writable = .error f) : f.stage? = none := by
  unfold Value.writable at h
  split at h <;> cases h
  rfl

/-- Once all inputs are embedded, the promise is kept exactly where the tokens can be told. -/
theorem finish_keeps {p : Progress} {s : Session} (hp : IsNumber p.tokens)
    (hlength : p.embeddings.length = n) :
    KeepsIf n (Orderly p.tokens []) (m.finish o p s).1 := by
  refine KeepsIf.congr ?_ Orderly.done_iff.symm
  unfold finish
  cases hwritable : p.tokens.writable with
  | error f =>
      refine .of_other (writable_error hwritable) ?_
      rintro ⟨hok, -⟩
      cases hok
  | ok _ =>
      rw [Run.bind_apply_ok (Run.ofExcept_apply _ _), Run.bind_apply_ok (Run.say_apply _ _ _ _)]
      cases hcounts : countsOf p.tokens with
      | error f =>
          refine .of_other (countsOf_error hcounts) ?_
          rintro ⟨-, k, hk⟩
          cases hcounts.symm.trans ((countsOf_ok hp).mpr ⟨k, hk, rfl⟩)
      | ok usage =>
          obtain ⟨k, hk, -⟩ := (countsOf_ok hp).mp hcounts
          exact .of_ok hlength ⟨rfl, k, hk⟩

/-- **Replies that tell of one input each are orderly exactly where the promise is kept.** -/
theorem embedEach_keeps {answers : List (Value Attachment)} {bodies : List (List UInt8)}
    {p : Progress} {s : Session} {left : List Reply}
    (hwritten : ∀ v ∈ vs, ∃ body text, singleBody o v = .ok body ∧ jsonBody body = .ok text)
    (hbodies : List.Forall₂ (fun a b => Endpoint.bodyOf a = .ok b) answers bodies)
    (hall : bodies.length = vs.length) (hreplies : s.replies = answers.map Reply.answer ++ left)
    (hp : IsNumber p.tokens) (hlength : p.embeddings.length + vs.length = n) :
    KeepsIf n (Orderly p.tokens bodies) ((m.embedEach id o vs p >>= m.finish o) s).1 := by
  induction vs generalizing answers bodies p s with
  | nil =>
      obtain rfl := List.eq_nil_of_length_eq_zero hall
      exact finish_keeps hp hlength
  | cons v rest ih =>
      cases hbodies with
      | nil => cases hall
      | @cons a b answers bodies hb hbodies =>
          obtain ⟨body, text, hbody, htext⟩ := hwritten v (by simp)
          obtain ⟨t, hask, hleft⟩ := ask_answer m id hbody htext hb hreplies
          rw [embedEach_cons, bind_assoc]
          cases hread : Endpoint.readBody b with
          | error f =>
              rw [hread] at hask
              rw [Run.bind_apply_error hask]
              rcases Endpoint.readBody_error hread with ⟨g, rfl⟩ | hnone
              · exact .of_response rfl (.garbled ⟨g, hread⟩)
              · exact .of_other hnone (Orderly.not_of_unread hread hnone)
          | ok reply =>
              rw [hread] at hask
              rw [Run.bind_apply_ok hask]
              cases hadd : p.add id reply with
              | error f =>
                  rcases Progress.add_cases hadd with hlacks | hnone
                  · cases (Progress.add_lacks hlacks).symm.trans hadd
                    exact .of_response rfl (.lacking hread hlacks)
                  · exact .of_other hnone (Orderly.not_of_unadded hread hadd hnone)
              | ok q =>
                  obtain ⟨xs, count, total, htells, hadded, rfl⟩ := Progress.add_ok.mp hadd
                  refine KeepsIf.congr ?_ (Orderly.next_iff hread htells hadded).symm
                  refine ih (p := p.also reply xs total)
                    (fun w hw => hwritten w (by simp [hw])) hbodies ?_ hleft (hp.plus hadded) ?_
                  · simpa using hall
                  · simp [Progress.also, ← hlength]
                    omega

/-! ### Both families -/

/-- **The promise is kept by orderly replies, and by no others.**  Where the requests can be written
and the service answers each with a body, a vector for each input comes back, or a fault with the
reply, exactly if the bodies are orderly as they are read; otherwise a fault of another making gets
out. -/
theorem keeps_if_orderly (m : EmbeddingModel) (values : Given) (layer : Option EmbeddingOptions)
    (s : Session) {vs : List Given} {o : EmbeddingOptions} {answers : List (Value Attachment)}
    {bodies : List (List UInt8)} {left : List Reply} (hvalues : inputs values = .ok vs)
    (hsome : vs ≠ []) (ho : m.options layer = .ok o)
    (hbodies : List.Forall₂ (fun a b => Endpoint.bodyOf a = .ok b) answers bodies)
    (hreplies : s.replies = answers.map Reply.answer ++ left) :
    (m.family = .titan → bodies.length = vs.length →
      (∀ v ∈ vs, ∃ body text, singleBody o v = .ok body ∧ jsonBody body = .ok text) →
        KeepsIf vs.length (Orderly (.int 0) bodies) (m.embed values layer s).1) ∧
    (m.family ≠ .titan → ∀ b, bodies = [b] →
      (∃ texts text, textsOf vs = .ok texts ∧ jsonBody (jointBody texts o) = .ok text) →
        KeepsIf vs.length (OrderlyJoint vs.length b) (m.embed values layer s).1) := by
  constructor
  · intro hfamily hall hwritten
    rw [embed_singly hfamily hvalues hsome ho, embedSingly_eq]
    exact embedEach_keeps (p := {}) hwritten hbodies hall hreplies (Or.inl ⟨0, rfl⟩) (by simp)
  · rintro hfamily b rfl ⟨texts, text, htexts, htext⟩
    rw [embed_jointly hfamily hvalues hsome ho]
    cases hbodies with
    | cons hb hrest =>
        cases hrest
        exact embedJointly_keeps htexts htext hb hreplies

/-- Whether a run ends with a fault that is none of the library's own. -/
def escaping (x : Except Halt EmbeddingResponse) : Bool :=
  match x with
  | .error (.fault f) => f.stage?.isNone
  | _ => false

theorem escapes_of_escaping {x : Except Halt EmbeddingResponse} (h : escaping x = true) :
    Escapes x := by
  rcases x with (f | _) | r
  · exact ⟨f, rfl, Option.isNone_iff_eq_none.mp h⟩
  · cases h
  · cases h

/-- Two replies for two texts are orderly, though the second tells no count; and a list of vectors
that is all there is to a reply is not. -/
theorem orderly_replies :
    Orderly (.int 0) [spelling "\x7b\"embedding\": [1], \"inputTextTokenCount\": 3\x7d",
        spelling "\x7b\"embedding\": [2]\x7d"] ∧
      ¬ OrderlyJoint 1 (spelling "[[1]]") := by
  constructor
  · let bodies := [spelling "\x7b\"embedding\": [1], \"inputTextTokenCount\": 3\x7d",
      spelling "\x7b\"embedding\": [2]\x7d"]
    let s : Session := { replies := bodies.map fun b => .answer (holding b) }
    have hrun : (titan.embed (.list [.str "one", .str "two"]) none s).1.toOption.map
        (fun r => r.embeddings.length) = some 2 := by
      decide +kernel
    have hall : List.Forall₂ (fun a b => Endpoint.bodyOf a = .ok b) (bodies.map holding) bodies :=
      .cons rfl (.cons rfl .nil)
    have hwritten : ∀ v ∈ [Value.str "one", .str "two"], ∃ body text,
        singleBody { family := .titan } v = .ok body ∧ jsonBody body = .ok text := by
      intro v hv
      simp only [List.mem_cons, List.not_mem_nil, or_false] at hv
      rcases hv with rfl | rfl
      · exact ⟨_, _, rfl, rfl⟩
      · exact ⟨_, _, rfl, rfl⟩
    have hreplies : s.replies = (bodies.map holding).map Reply.answer ++ [] := rfl
    obtain ⟨hsingle, -⟩ := keeps_if_orderly titan (.list [.str "one", .str "two"]) none s rfl
      (by simp) rfl hall hreplies
    obtain ⟨r, hembed, hr⟩ := exists_of_toOption hrun
    refine (hsingle rfl rfl hwritten).kept.mp ?_
    rw [hembed]
    exact Or.inl ⟨r, rfl, hr⟩
  · let s : Session := { replies := [answering "[[1]]"] }
    have hrun : escaping (cohere.embed (.str "one") none s).1 = true := by decide +kernel
    have hall : List.Forall₂ (fun a b => Endpoint.bodyOf a = .ok b) [holding (spelling "[[1]]")]
        [spelling "[[1]]"] := .cons rfl .nil
    have hreplies : s.replies = [holding (spelling "[[1]]")].map Reply.answer ++ [] := rfl
    obtain ⟨-, hjoint⟩ :=
      keeps_if_orderly cohere (.str "one") none s rfl (by simp) rfl hall hreplies
    have hkeeps := hjoint (by decide) _ rfl ⟨["one"], _, rfl, rfl⟩
    exact hkeeps.escapes.mp (escapes_of_escaping hrun)

/-- A vector that holds a word lets a fault of another making out. -/
theorem words_escape :
    Escapes (titan.embed (.str "hello") none
      { replies := [answering "\x7b\"embedding\": [\"x\"]\x7d"] }).1 :=
  escapes_of_escaping (by decide +kernel)

end EmbeddingModel

end Parley
