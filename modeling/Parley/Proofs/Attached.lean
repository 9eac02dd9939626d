/-
Bytes that are attached to a message.

A content is made of bytes and their media type, or of the URI that such a content has, and is the
same content either way.  The bytes come out of it as they went in: in the block of an image that
the service is asked about, and as base64 text in the request that embeds one.  So what a content
holds does not depend on how it was put there, and nothing is lost on the way to the service.
-/
import Parley.Proofs.Base64
import Parley.Proofs.DataUri
import Parley.Proofs.Naming

namespace Parley

/-! ### Contents made of bytes, and of their URI -/

namespace Content

variable {u m : String} {p : DataUri.Parts} {b : List UInt8}

theorem uri_spelled (h : DataUri.Spells u p) : uri (.str u) = .ok u := by
  have hstring : Check.string (.str u : Given) = .ok u := rfl
  unfold uri
  rw [hstring, Outcome.ok_bind, DataUri.parts?_iff.mpr h]

/-- A data content is made where its address is one. -/
theorem dataOfFields_ok {fields : List (String × Given)} {shared : Document × Option Properties}
    (honly : Check.onlyFields "DataContent"
      ["uri", "data", "media_type", "raw_representation", "additional_properties"] fields = .ok ())
    (haddress : address fields = .ok (.str u, .str m)) (hcommon : common fields = .ok shared)
    (h : DataUri.Spells u p) :
    dataOfFields fields = .ok ⟨.data ⟨u, some m⟩, shared.1, shared.2⟩ := by
  unfold dataOfFields
  rw [honly, Outcome.ok_bind, haddress, Outcome.ok_bind]
  dsimp only
  rw [uri_spelled h, hcommon]
  rfl

/-- What some bytes become when they are put into a content. -/
def attached (m : String) (b : List UInt8) : Data := ⟨DataUri.ofBytes m b, some m⟩

theorem dataOfFields_bytes (hm : DataUri.MediaType m.toList) (b : List UInt8) :
    dataOfFields [("data", .bytes b), ("media_type", .str m)] =
      .ok ⟨.data (attached m b), .null, none⟩ := by
  have hcommon : common [("data", .bytes b), ("media_type", .str m)] = .ok (.null, none) := rfl
  exact dataOfFields_ok rfl rfl hcommon (DataUri.spells_ofBytes hm b)

theorem dataOfFields_uri (h : DataUri.Spells u p) (hp : p.mediaType = some m) :
    dataOfFields [("uri", .str u)] = .ok ⟨.data ⟨u, some m⟩, .null, none⟩ := by
  have haddress : address [("uri", .str u)] = .ok (.str u, .str m) := by
    show Except.ok (Value.str u,
      (((DataUri.parts? u).bind DataUri.Parts.mediaType).map Value.str).getD (.null : Given)) = _
    rw [DataUri.parts?_iff.mpr h, Option.bind_some, hp]
    rfl
  have hcommon : common [("uri", .str u)] = .ok (.null, none) := rfl
  exact dataOfFields_ok rfl haddress hcommon h

theorem bytes_spelled {d : Data} (h : DataUri.Spells d.uri ⟨d.mediaType, Base64.encode b⟩) :
    d.bytes = .ok b := by
  unfold Data.bytes
  rw [DataUri.parts?_iff.mpr h]
  dsimp only
  rw [Base64.decode_encode]

end Content

/-! ### The block of an image -/

namespace DataUri

theorem MediaType.ne_empty {m : String} (hm : MediaType m.toList) : m ≠ "" := by
  intro h
  rw [h] at hm
  exact hm.ne_nil rfl

end DataUri

theorem Data.hasTopLevel_iff {d : Data} {m top : String} (hd : d.mediaType = some m)
    (hm : m ≠ "") :
    d.hasTopLevel top = true ↔ Text.lower (DataUri.topLevel m) = Text.lower top := by
  unfold Data.hasTopLevel
  rw [hd]
  split
  case h_1 heq => cases heq
  case h_2 heq => exact absurd (Option.some.inj heq) hm
  case h_3 heq =>
    rw [Option.some.inj heq]
    exact beq_iff_eq

namespace Block

/-- A content is written where it stands, and if it cannot be written, neither is what is around
it. -/
theorem ofContents_among {before after : List Content} {xs ys : List Document}
    (hbefore : ofContents before = .ok xs) (hafter : ofContents after = .ok ys) (c : Content) :
    ofContents (before ++ c :: after) =
      (ofContent? c).map fun block => xs ++ (block.toList ++ ys) := by
  induction before generalizing xs with
  | nil =>
      obtain rfl := Except.ok.inj hbefore
      rw [List.nil_append, ofContents, hafter]
      cases ofContent? c <;> rfl
  | cons first rest ih =>
      rw [ofContents] at hbefore
      obtain ⟨head, hhead, hbefore⟩ := Outcome.bind_ok.mp hbefore
      obtain ⟨more, hmore, hbefore⟩ := Outcome.bind_ok.mp hbefore
      obtain rfl := Except.ok.inj hbefore
      rw [List.cons_append, ofContents, hhead, Outcome.ok_bind, ih hmore]
      cases ofContent? c with
      | error f => rfl
      | ok block => simp [Except.map, pure, Except.pure]

/-- A content is written where it stands, whatever is written around it. -/
theorem ofContents_insert {before after : List Content} {c : Content} {xs ys : List Document}
    {block : Document} (hbefore : ofContents before = .ok xs)
    (hc : ofContent? c = .ok (some block)) (hafter : ofContents after = .ok ys) :
    ofContents (before ++ c :: after) = .ok (xs ++ block :: ys) := by
  rw [ofContents_among hbefore hafter, hc]
  rfl

end Block

/-! ### The request that embeds an image -/

namespace Run

variable {α β : Type} {request : Document}

/-- A computation that sends one request, once or several times over, and no other. -/
def Insists (request : Document) (x : Run α) : Prop :=
  ∀ s, ∃ k, (x s).2.requests = s.requests ++ List.replicate (k + 1) request

namespace Insists

theorem of_repeats {x : Run α} (h : Repeats request x) : Insists request x := by
  intro s
  obtain ⟨k, rs, hgrows, -⟩ := h s
  exact ⟨k, hgrows.requests⟩

/-- What comes before it may send nothing, and goes on. -/
theorem after {x : Run α} {a : α} {f : α → Run β}
    (hx : ∀ s, ∃ t, x s = (.ok a, t) ∧ t.requests = s.requests) (hf : Insists request (f a)) :
    Insists request (x >>= f) := by
  intro s
  obtain ⟨t, ht, hrequests⟩ := hx s
  obtain ⟨k, hk⟩ := hf t
  exact ⟨k, by rw [bind_apply_ok ht, hk, hrequests]⟩

/-- What comes after it may send nothing. -/
theorem before {x : Run α} {f : α → Run β} (hx : Insists request x)
    (hf : ∀ a, Sends (fun _ => False) (f a)) : Insists request (x >>= f) := by
  intro s
  obtain ⟨k, hk⟩ := hx s
  refine ⟨k, ?_⟩
  rw [bind_apply]
  rcases h : x s with ⟨e | a, t⟩ <;> rw [h] at hk
  · exact hk
  · obtain ⟨sent, hsent, hnone⟩ := hf a t
    obtain rfl : sent = [] := List.eq_nil_iff_forall_not_mem.mpr hnone
    rw [hsent, List.append_nil, hk]

end Insists

end Run

/-- An invocation sends its body, and nothing else. -/
theorem Endpoint.insists_invoke (p : Policy) (id : Document) {body : Document} {text : String}
    (h : jsonBody body = .ok text) :
    Run.Insists (invocation id text jsonType jsonType) (invoke p id body) := by
  refine Run.Insists.after (fun s => ⟨_, rfl, rfl⟩) ?_
  rw [h]
  refine Run.Insists.after (fun s => ⟨_, rfl, rfl⟩) ?_
  refine (Run.Insists.of_repeats (repeats_submit p "InvokeModel" _)).before fun reply => ?_
  exact .bind (.ofExcept _) fun b => .ofExcept _

namespace EmbeddingModel

/-- What a request for an image says by itself, before anything is written over it. -/
def imageFields (o : EmbeddingOptions) (b : List UInt8) : Properties :=
  ("inputImage", .str (Base64.text b))
    :: (match o.dimensions.value? with | some n => [("dimensions", .int n)] | none => [])
    ++ (match o.normalize.value? with | some x => [("normalize", .bool x)] | none => [])

theorem singleBody_image {o : EmbeddingOptions} {d : Data} {raw : Document}
    {properties : Option Properties} {b : List UInt8} (himage : d.hasTopLevel "image" = true)
    (hb : d.bytes = .ok b) :
    singleBody o (.leaf (.content ⟨.data d, raw, properties⟩)) =
      .ok (.obj (Entries.union (imageFields o b) o.properties)) := by
  have hentry : inputEntry o (.leaf (.content ⟨.data d, raw, properties⟩)) =
      .ok ("inputImage", .str (Base64.text b)) := by
    unfold inputEntry
    dsimp only
    rw [if_pos himage, hb]
    rfl
  unfold singleBody
  rw [hentry]
  rfl

/-- A request for an image can be written, unless it asks for more dimensions than can be written. -/
theorem jsonBody_imageFields (o : EmbeddingOptions) (b : List UInt8) :
    (∃ text, jsonBody (.obj (imageFields o b)) = .ok text) ↔
      ∀ n, o.dimensions.value? = some n → Number.isTooLong n = false := by
  unfold imageFields jsonBody
  rcases o.dimensions.value? with _ | n <;> rcases o.normalize.value? with _ | x
  · exact iff_of_true ⟨_, rfl⟩ (by simp)
  · exact iff_of_true ⟨_, rfl⟩ (by simp)
  all_goals
    cases hlong : Number.isTooLong n <;>
      simp [Json.write, Json.writeEntries, wholeText, hlong]

/-- A request for one input is sent, and none besides. -/
theorem insists_embed {m : EmbeddingModel} {layer : Option EmbeddingOptions} {o : EmbeddingOptions}
    {values v : Given} {body : Document} {text : String} (hfamily : m.family = .titan)
    (ho : m.options layer = .ok o) (hvalues : inputs values = .ok [v])
    (hbody : singleBody o v = .ok body) (htext : jsonBody body = .ok text) :
    Run.Insists (Endpoint.invocation (.str (m.modelIdFor o)) text Endpoint.jsonType
      Endpoint.jsonType) (m.embed values layer) := by
  unfold embed
  rw [hvalues]
  refine Run.Insists.after (fun s => ⟨s, rfl, rfl⟩) ?_
  rw [if_neg (by simp), ho]
  refine Run.Insists.after (fun s => ⟨s, rfl, rfl⟩) ?_
  rw [hfamily]
  dsimp only
  unfold embedSingly
  -- once the only input is embedded, what is left is to put the answer together
  refine Run.Insists.before ?_ fun p => ?_
  · unfold embedEach
    rw [hbody]
    refine Run.Insists.after (fun s => ⟨s, rfl, rfl⟩) ?_
    refine (Endpoint.insists_invoke m.policy _ htext).before fun reply => ?_
    exact .bind (.ofExcept _) fun p => .of_quiet (.pure p)
  · refine .bind (.ofExcept _) fun _ => .bind (.of_apply fun _ => rfl) fun _ => ?_
    exact .bind (.ofExcept _) fun _ => .of_quiet (.pure _)

end EmbeddingModel

/-! ### From the bytes to the service -/

/-- What an image comes to: its block among those of other contents, and the request that embeds it.
Only what the additional properties say is written over the image in that request, and without any
the request is sent, unless the number of dimensions that it asks for is too long to be written. -/
structure Content.Shown (c : Content) (format : String) (b : List UInt8) : Prop where
  block : ∀ {before after : List Content} {xs ys : List Document},
    Block.ofContents before = .ok xs → Block.ofContents after = .ok ys →
      Block.ofContents (before ++ c :: after) = .ok (xs ++ Block.image format b :: ys)
  body : ∀ o : EmbeddingOptions, EmbeddingModel.singleBody o (.leaf (.content c)) =
    .ok (.obj (Entries.union (EmbeddingModel.imageFields o b) o.properties))
  image : ∀ o : EmbeddingOptions, Entries.get? o.properties "inputImage" = none →
    Entries.get? (Entries.union (EmbeddingModel.imageFields o b) o.properties) "inputImage" =
      some (.str (Base64.text b))
  written : ∀ o : EmbeddingOptions, o.properties = [] →
    ((∃ text, jsonBody (.obj (Entries.union (EmbeddingModel.imageFields o b) o.properties)) =
        .ok text) ↔
      ∀ n, o.dimensions.value? = some n → Number.isTooLong n = false)
  sent : ∀ {m : EmbeddingModel} {layer : Option EmbeddingOptions} {o : EmbeddingOptions}
    {text : String}, m.family = .titan → m.options layer = .ok o →
      jsonBody (.obj (Entries.union (EmbeddingModel.imageFields o b) o.properties)) = .ok text →
      Run.Insists (Endpoint.invocation (.str (m.modelIdFor o)) text Endpoint.jsonType
        Endpoint.jsonType) (m.embed (.leaf (.content c)) layer)

theorem Content.shown_attached {m : String} (hm : DataUri.MediaType m.toList) (b : List UInt8)
    (himage : Text.lower (DataUri.topLevel m) = "image") :
    Content.Shown ⟨.data (attached m b), .null, none⟩ (Block.imageFormat (some m)) b := by
  have hbytes : (attached m b).bytes = .ok b := bytes_spelled (DataUri.spells_ofBytes hm b)
  have htop : (attached m b).hasTopLevel "image" = true :=
    (Data.hasTopLevel_iff rfl hm.ne_empty).mpr (himage.trans (by decide))
  have hbody (o : EmbeddingOptions) :=
    @EmbeddingModel.singleBody_image o (attached m b) .null none b htop hbytes
  refine ⟨fun hbefore hafter => Block.ofContents_insert hbefore ?_ hafter, hbody, ?_, ?_, ?_⟩
  · unfold Block.ofContent?
    dsimp only
    rw [if_pos htop, hbytes]
    rfl
  · intro o hnone
    rw [Entries.get?_union_none hnone]
    rfl
  · intro o hplain
    rw [hplain]
    exact EmbeddingModel.jsonBody_imageFields o b
  · intro e layer o text hfamily ho htext
    exact EmbeddingModel.insists_embed hfamily ho rfl (hbody o) htext

/-- **Bytes come back as they were put in**, and an image gets to the service as it is. -/
theorem Content.attached_comes_back {m : String} (hm : DataUri.MediaType m.toList)
    (b : List UInt8) :
    dataOfFields [("data", .bytes b), ("media_type", .str m)] =
        .ok ⟨.data (attached m b), .null, none⟩ ∧
      (attached m b).mediaType = some m ∧ (attached m b).bytes = .ok b ∧
      dataOfFields [("uri", .str (attached m b).uri)] = .ok ⟨.data (attached m b), .null, none⟩ ∧
      Base64.Standard b (Base64.text b).toList ∧
      (Text.lower (DataUri.topLevel m) = "image" →
        Content.Shown ⟨.data (attached m b), .null, none⟩ (Block.imageFormat (some m)) b) := by
  have hspells := DataUri.spells_ofBytes hm b
  have hstandard : Base64.Standard b (Base64.text b).toList := by
    unfold Base64.text
    rw [String.toList_ofList]
    exact Base64.encode_standard b
  exact ⟨dataOfFields_bytes hm b, rfl, bytes_spelled hspells, dataOfFields_uri hspells rfl,
    hstandard, shown_attached hm b⟩

theorem DataUri.mediaType_png : MediaType "image/png".toList :=
  ⟨['i', 'm', 'a', 'g', 'e'], ['p', 'n', 'g'], word_ascii (by decide), word_ascii (by decide), rfl⟩

/-- The first bytes of an image, whose base64 text needs padding: among other contents of a message,
and embedded by a model as it comes. -/
theorem png_comes_back :
    let d : Data := ⟨"data:image/png;base64,iVBORw==", some "image/png"⟩
    let c : Content := ⟨.data d, .null, none⟩
    let m : EmbeddingModel :=
      { family := .titan, defaults := { family := .titan }
        modelId := "amazon.titan-embed-image-v1" }
    Content.dataOfFields [("data", .bytes [0x89, 0x50, 0x4e, 0x47]),
        ("media_type", .str "image/png")] = .ok c ∧
      d.bytes = .ok [0x89, 0x50, 0x4e, 0x47] ∧
      Block.ofContents [.ofText "What is this?", c] =
        .ok [Block.text "What is this?", Block.image "png" [0x89, 0x50, 0x4e, 0x47]] ∧
      Run.Insists (Endpoint.invocation (.str "amazon.titan-embed-image-v1")
        "\x7b\"inputImage\": \"iVBORw==\"\x7d" Endpoint.jsonType Endpoint.jsonType)
        (m.embed (.leaf (.content c)) none) := by
  intro d c m
  have hd : Content.attached "image/png" [0x89, 0x50, 0x4e, 0x47] = d := by decide
  obtain ⟨hmade, -, hbytes, -, -, himage⟩ :=
    Content.attached_comes_back DataUri.mediaType_png [0x89, 0x50, 0x4e, 0x47]
  rw [hd] at hmade hbytes himage
  have hshown := himage (by decide)
  have htext : Block.ofContents [.ofText "What is this?"] = .ok [Block.text "What is this?"] := rfl
  exact ⟨hmade, hbytes, hshown.block htext (Eq.refl (Block.ofContents [])),
    @Content.Shown.sent _ _ _ hshown m none { family := .titan } _ rfl rfl rfl⟩

end Parley
