/-
Data that is accepted, and data that can be read.

A content of data is accepted where its URI is an instance of the pattern, and the pattern lets any
text stand behind the comma.  The bytes are looked for only when the content is sent, and then the
text has to be base64 text: of ASCII characters, with those that count in whole groups of four or
the last group filled up with padding.  `Readable` says so without going through the text.  The two
conditions are not the same, so a content may be accepted that can never be sent.

Reading goes from the front, with the place in the group and the paddings behind it at hand.  Both
can be told from the text that has been read, which is what the induction is carried by.
-/
import Parley.Proofs.Attached
import Parley.Proofs.Attribution

namespace Parley

/-! ### Base64 text -/

namespace Base64

/-- The numbers that the characters of a text stand for; characters outside the alphabet do not
count. -/
def counted (cs : List Char) : List Nat := cs.filterMap value?

/-- The number of paddings behind the last character that counts. -/
def padding (cs : List Char) : Nat := (cs.reverse.takeWhile fun c => (value? c).isNone).count '='

/-- A text whose last group is whole with one more padding: it has two characters and a padding, or
three characters. -/
structure Completes (front : List Char) : Prop where
  begun : 2 ≤ (counted front).length % 4
  filled : 3 ≤ (counted front).length % 4 + padding front

/-- A text in which some padding makes the last group whole; what stands behind it does not
matter. -/
def Ends (cs : List Char) : Prop := ∃ front rest, cs = front ++ '=' :: rest ∧ Completes front

/-- A text that bytes can be read from. -/
structure Readable (cs : List Char) : Prop where
  ascii : ∀ c ∈ cs, c.toNat < 0x80
  whole : 4 ∣ (counted cs).length ∨ Ends cs

variable {cs pre : List Char} {c : Char} {n place pads : Nat}

theorem value?_pad : value? '=' = none := by decide

theorem counted_concat (cs : List Char) (c : Char) :
    counted (cs ++ [c]) = counted cs ++ (value? c).toList := by
  unfold counted
  rw [List.filterMap_append]
  cases h : value? c <;> simp [h]

theorem padding_concat_some (h : value? c = some n) (cs : List Char) : padding (cs ++ [c]) = 0 := by
  simp [padding, h]

theorem padding_concat_none (h : value? c = none) (cs : List Char) :
    padding (cs ++ [c]) = padding cs + if c = '=' then 1 else 0 := by
  simp [padding, h, List.count_cons]

/-- A text that ends a text in front of it. -/
def EndsBehind (pre cs : List Char) : Prop :=
  ∃ front rest, cs = front ++ '=' :: rest ∧ Completes (pre ++ front)

/-- A text ends at its first character or behind it. -/
theorem endsBehind_cons :
    EndsBehind pre (c :: cs) ↔ (c = '=' ∧ Completes pre) ∨ EndsBehind (pre ++ [c]) cs := by
  constructor
  · rintro ⟨front, rest, heq, hfront⟩
    cases front with
    | nil =>
        rw [List.nil_append] at heq
        rw [List.append_nil] at hfront
        exact Or.inl ⟨(List.cons.inj heq).1, hfront⟩
    | cons first more =>
        rw [List.cons_append] at heq
        obtain ⟨rfl, hcs⟩ := List.cons.inj heq
        exact Or.inr ⟨more, rest, hcs, by simpa using hfront⟩
  · rintro (⟨rfl, hpre⟩ | ⟨front, rest, rfl, hfront⟩)
    · exact ⟨[], cs, rfl, by simpa using hpre⟩
    · exact ⟨c :: front, rest, rfl, by simpa using hfront⟩

/-- Where reading stands when a text has been read: its place in the group, and the paddings behind
it once they can matter. -/
structure Stands (pre : List Char) (place pads : Nat) : Prop where
  group : place = (counted pre).length % 4
  behind : 2 ≤ place → pads = padding pre

namespace Stands

theorem nil : Stands [] 0 0 := ⟨rfl, fun h => absurd h (by omega)⟩

theorem skip (h : Stands pre place pads) (hc : value? c = none) (hne : c ≠ '=') :
    Stands (pre ++ [c]) place pads := by
  constructor
  · rw [counted_concat, hc]
    simpa using h.group
  · intro hplace
    rw [padding_concat_none hc, if_neg hne]
    exact h.behind hplace

theorem count (h : Stands pre place pads) (hc : value? c = some n) :
    Stands (pre ++ [c]) ((place + 1) % 4) 0 := by
  constructor
  · rw [counted_concat, hc, h.group]
    simp
  · intro _
    rw [padding_concat_some hc]

theorem early (h : Stands pre place pads) (hplace : place < 2) :
    Stands (pre ++ ['=']) place pads := by
  constructor
  · rw [counted_concat, value?_pad]
    simpa using h.group
  · intro hlate
    omega

theorem pad (h : Stands pre place pads) (hplace : 2 ≤ place) :
    Stands (pre ++ ['=']) place (pads + 1) := by
  constructor
  · rw [counted_concat, value?_pad]
    simpa using h.group
  · intro _
    rw [padding_concat_none value?_pad, if_pos rfl, h.behind hplace]

theorem completes_iff (h : Stands pre place pads) :
    Completes pre ↔ 2 ≤ place ∧ 3 ≤ place + pads := by
  constructor
  · intro hpre
    have hplace : 2 ≤ place := by
      rw [h.group]
      exact hpre.begun
    refine ⟨hplace, ?_⟩
    rw [h.behind hplace, h.group]
    exact hpre.filled
  · rintro ⟨hplace, hfilled⟩
    rw [h.behind hplace] at hfilled
    rw [h.group] at hplace hfilled
    exact ⟨hplace, hfilled⟩

end Stands

/-- Reading ends at a padding that makes the last group whole, and if there is none, it has found
all characters that count. -/
theorem collect_stands (cs : List Char) (h : Stands pre place pads) :
    ((collect place pads cs).2 = true ↔ EndsBehind pre cs) ∧
      ((collect place pads cs).2 = false → (collect place pads cs).1 = counted cs) := by
  induction cs generalizing pre place pads with
  | nil => simp [collect, counted, EndsBehind]
  | cons c rest ih =>
      rw [endsBehind_cons]
      by_cases hc : c = '='
      · subst hc
        have hskip : counted ('=' :: rest) = counted rest := List.filterMap_cons_none value?_pad
        rw [hskip, h.completes_iff, collect, if_pos rfl]
        by_cases hplace : place < 2
        · obtain ⟨hends, hall⟩ := ih (h.early hplace)
          have hnot : ¬ (2 ≤ place ∧ 3 ≤ place + pads) := by omega
          rw [if_pos hplace, hends]
          exact ⟨by simp [hnot], hall⟩
        · rw [if_neg hplace]
          by_cases hfilled : place + (pads + 1) ≥ 4
          · have hnow : 2 ≤ place ∧ 3 ≤ place + pads := by omega
            rw [if_pos hfilled]
            simp [hnow]
          · obtain ⟨hends, hall⟩ := ih (h.pad (by omega))
            have hnot : ¬ (2 ≤ place ∧ 3 ≤ place + pads) := by omega
            rw [if_neg hfilled, hends]
            exact ⟨by simp [hnot], hall⟩
      · rw [collect, if_neg hc]
        cases hvalue : value? c with
        | none =>
            obtain ⟨hends, hall⟩ := ih (h.skip hvalue hc)
            have hskip : counted (c :: rest) = counted rest := List.filterMap_cons_none hvalue
            dsimp only
            rw [hskip, hends]
            exact ⟨by simp [hc], hall⟩
        | some n =>
            obtain ⟨hends, hall⟩ := ih (h.count hvalue)
            have hnext : counted (c :: rest) = n :: counted rest :=
              List.filterMap_cons_some hvalue
            dsimp only
            rw [hnext, hends]
            refine ⟨by simp [hc], ?_⟩
            intro hopen
            rw [hall hopen]

theorem collect_ends (cs : List Char) : (collect 0 0 cs).2 = true ↔ Ends cs :=
  (collect_stands cs Stands.nil).1

theorem collect_counted (h : ¬ Ends cs) : (collect 0 0 cs).1 = counted cs := by
  apply (collect_stands cs Stands.nil).2
  rw [← collect_ends] at h
  simpa using h

/-- **Bytes are read from a text exactly if it is readable.** -/
theorem decode_ok_iff : (∃ b, decode cs = .ok b) ↔ Readable cs := by
  unfold decode
  by_cases hascii : (cs.any fun c => c.toNat ≥ 0x80) = true
  · rw [if_pos hascii]
    obtain ⟨c, hc, hlarge⟩ := List.any_eq_true.mp hascii
    constructor
    · rintro ⟨b, hb⟩
      cases hb
    · intro h
      have hsmall := h.ascii c hc
      have hlarge : 0x80 ≤ c.toNat := by simpa using hlarge
      omega
  · rw [if_neg hascii]
    have hall : ∀ c ∈ cs, c.toNat < 0x80 := by simpa using hascii
    by_cases hends : Ends cs
    · have hpadded := (collect_ends cs).mpr hends
      simp only [hpadded, Bool.true_or, if_true]
      exact ⟨fun _ => ⟨hall, Or.inr hends⟩, fun _ => ⟨_, rfl⟩⟩
    · have hopen : (collect 0 0 cs).2 = false := by
        rw [← collect_ends] at hends
        simpa using hends
      simp only [hopen, collect_counted hends, Bool.false_or, beq_iff_eq]
      by_cases hwhole : (counted cs).length % 4 = 0
      · rw [if_pos hwhole]
        exact ⟨fun _ => ⟨hall, Or.inl (Nat.dvd_of_mod_eq_zero hwhole)⟩, fun _ => ⟨_, rfl⟩⟩
      · rw [if_neg hwhole]
        constructor
        · rintro ⟨b, hb⟩
          split at hb <;> cases hb
        · intro h
          exact absurd (Nat.mod_eq_zero_of_dvd (h.whole.resolve_right hends)) hwhole

end Base64

/-! ### Contents that were accepted -/

theorem Data.bytes_eq {d : Data} {p : DataUri.Parts} (h : DataUri.Spells d.uri p) :
    d.bytes = (Base64.decode p.data).mapError Fault.ofBase64 := by
  unfold Data.bytes
  rw [DataUri.parts?_iff.mpr h]
  dsimp only
  cases Base64.decode p.data <;> rfl

/-- Either bytes are read from data, and its text is readable, or there is a flaw in the text. -/
theorem Data.bytes_cases {d : Data} {p : DataUri.Parts} (h : DataUri.Spells d.uri p) :
    (Base64.Readable p.data ∧ ∃ b, d.bytes = .ok b) ∨
      (¬ Base64.Readable p.data ∧ ∃ flaw, d.bytes = .error (Fault.ofBase64 flaw)) := by
  rw [bytes_eq h, ← Base64.decode_ok_iff]
  cases Base64.decode p.data with
  | ok b => exact Or.inl ⟨⟨b, rfl⟩, b, rfl⟩
  | error flaw =>
      refine Or.inr ⟨?_, flaw, rfl⟩
      rintro ⟨b, hb⟩
      cases hb

namespace Content

theorem uri_ok {v : Given} {u : String} (h : uri v = .ok u) :
    Check.string v = .ok u ∧ ∃ p, DataUri.Spells u p := by
  obtain ⟨s, hs, h⟩ := Outcome.bind_ok.mp h
  cases hparts : DataUri.parts? s with
  | none =>
      rw [hparts] at h
      cases h
  | some p =>
      rw [hparts] at h
      obtain rfl : s = u := Except.ok.inj h
      exact ⟨hs, p, DataUri.parts?_iff.mp hparts⟩

/-- A URI that is given is the address. -/
theorem address_given {fields : List (String × Given)} {u : String} {a m : Given}
    (hu : Check.present? fields "uri" = some (.str u)) (h : address fields = .ok (a, m)) :
    a = .str u := by
  unfold address at h
  rw [hu] at h
  split at h
  case h_1 hnone _ _ => cases hnone
  case h_2 hnone _ => cases hnone
  case h_3 huri _ =>
    rw [← Option.some.inj huri] at h
    exact (Prod.mk.inj (Except.ok.inj h)).1.symm
  case h_4 huri _ =>
    rw [← Option.some.inj huri] at h
    exact (Prod.mk.inj (Except.ok.inj h)).1.symm

/-- What is accepted has an instance of the pattern for its URI, which is the one that was given. -/
theorem dataOfFields_spells {fields : List (String × Given)} {c : Content}
    (h : dataOfFields fields = .ok c) :
    ∃ d p, c.body = .data d ∧ DataUri.Spells d.uri p ∧
      ∀ u, Check.present? fields "uri" = some (.str u) → d.uri = u := by
  obtain ⟨_, -, h⟩ := Outcome.bind_ok.mp h
  obtain ⟨⟨a, m⟩, haddress, h⟩ := Outcome.bind_ok.mp h
  obtain ⟨f, mediaType, hf, -, hbody⟩ :=
    Checked.ap_ok.mp (Wire.assemble_ok (Checked.orInvalid_ok.mp h))
  obtain ⟨u, hu, rfl⟩ := Outcome.map_ok.mp hf
  obtain ⟨hstring, p, hp⟩ := uri_ok (Checked.named_ok.mp hu)
  refine ⟨⟨u, mediaType⟩, p, hbody.symm, hp, ?_⟩
  intro given hgiven
  rw [address_given hgiven haddress] at hstring
  exact (Except.ok.inj hstring).symm

end Content

/-- Only an image is looked into when a message is written. -/
theorem Block.ofContent?_data {c : Content} {d : Data} (h : c.body = .data d) :
    ofContent? c =
      if d.hasTopLevel "image" = true then
        d.bytes.map fun b => some (image (imageFormat d.mediaType) b)
      else .ok none := by
  unfold ofContent?
  rw [h]

/-- **Data that was accepted can be read exactly if its text is readable**, and only an image that
cannot be read keeps a message from being sent. -/
theorem Content.accepted_reads_iff {fields : List (String × Given)} {c : Content}
    (h : dataOfFields fields = .ok c) :
    ∃ d p, c.body = .data d ∧ DataUri.Spells d.uri p ∧
      (∀ u, Check.present? fields "uri" = some (.str u) → d.uri = u) ∧
      ((∃ b, d.bytes = .ok b) ↔ Base64.Readable p.data) ∧
      ((∃ flaw, d.bytes = .error (Fault.ofBase64 flaw)) ↔ ¬ Base64.Readable p.data) ∧
      ∀ before after xs ys, Block.ofContents before = .ok xs → Block.ofContents after = .ok ys →
        ((∃ blocks, Block.ofContents (before ++ c :: after) = .ok blocks) ↔
          (d.hasTopLevel "image" = true → Base64.Readable p.data)) ∧
        ((∃ flaw, Block.ofContents (before ++ c :: after) = .error (Fault.ofBase64 flaw)) ↔
          d.hasTopLevel "image" = true ∧ ¬ Base64.Readable p.data) := by
  obtain ⟨d, p, hbody, hspells, hgiven⟩ := dataOfFields_spells h
  refine ⟨d, p, hbody, hspells, hgiven, ?_⟩
  have hblock := Block.ofContent?_data hbody
  rcases Data.bytes_cases hspells with ⟨hreadable, b, hb⟩ | ⟨hflawed, flaw, hb⟩
  · refine ⟨by simp [hb, hreadable], by simp [hb, hreadable], ?_⟩
    intro before after xs ys hbefore hafter
    rw [Block.ofContents_among hbefore hafter, hblock, hb]
    by_cases himage : d.hasTopLevel "image" = true
    · simp [himage, hreadable, Except.map]
    · simp [himage, Except.map]
  · refine ⟨by simp [hb, hflawed], by simp [hb, hflawed], ?_⟩
    intro before after xs ys hbefore hafter
    rw [Block.ofContents_among hbefore hafter, hblock, hb]
    by_cases himage : d.hasTopLevel "image" = true
    · simp [himage, hflawed, Except.map]
    · simp [himage, Except.map]

/-- A line break within the text is skipped, and so is everything behind the padding. -/
theorem Content.broken_line_reads :
    ∃ c d, dataOfFields [("uri", .str "data:image/png;base64,iVBO\nRw==more")] = .ok c ∧
      c.body = .data d ∧ d.uri = "data:image/png;base64,iVBO\nRw==more" ∧
      Base64.Readable "iVBO\nRw==more".toList ∧ (∃ b, d.bytes = .ok b) ∧
      ∃ blocks, Block.ofContents [c] = .ok blocks := by
  have hends : Base64.Ends "iVBO\nRw==more".toList :=
    ⟨"iVBO\nRw=".toList, "more".toList, rfl, by decide, by decide⟩
  have hascii : ("iVBO\nRw==more".toList.all fun c => c.toNat < 0x80) = true := by decide
  have hreadable : Base64.Readable "iVBO\nRw==more".toList :=
    ⟨fun c hc => of_decide_eq_true (List.all_eq_true.mp hascii c hc), Or.inr hends⟩
  have hspells : DataUri.Spells "data:image/png;base64,iVBO\nRw==more"
      ⟨some "image/png", "iVBO\nRw==more".toList⟩ := by
    have h := DataUri.spells_plain DataUri.mediaType_png "iVBO\nRw==more".toList
    rwa [show "data:" ++ "image/png" ++ ";base64," ++ String.ofList "iVBO\nRw==more".toList =
      "data:image/png;base64,iVBO\nRw==more" by decide] at h
  obtain ⟨d, p, hbody, hp, huri, hread, -, hwrite⟩ :=
    accepted_reads_iff (dataOfFields_uri hspells rfl)
  have huri := huri _ rfl
  rw [huri] at hp
  have hparts : p = ⟨some "image/png", "iVBO\nRw==more".toList⟩ :=
    Option.some.inj ((DataUri.parts?_iff.mpr hp).symm.trans (DataUri.parts?_iff.mpr hspells))
  rw [hparts] at hread hwrite
  obtain ⟨hblocks, -⟩ := hwrite [] [] [] [] rfl rfl
  exact ⟨_, d, dataOfFields_uri hspells rfl, hbody, huri, hreadable, hread.mpr hreadable,
    hblocks.mpr fun _ => hreadable⟩

/-- An image whose text lacks its padding is accepted, and can neither be read nor be sent. -/
theorem Content.unpadded_accepted :
    ∃ c d, dataOfFields [("uri", .str "data:image/png;base64,QUI")] = .ok c ∧ c.body = .data d ∧
      d.bytes = .error (.malformedBase64 .unpadded) ∧
      Block.ofContents [c] = .error (.malformedBase64 .unpadded) := by
  have hspells : DataUri.Spells "data:image/png;base64,QUI"
      ⟨some "image/png", ['Q', 'U', 'I']⟩ := by
    have h := DataUri.spells_plain DataUri.mediaType_png ['Q', 'U', 'I']
    rwa [show "data:" ++ "image/png" ++ ";base64," ++ String.ofList ['Q', 'U', 'I'] =
      "data:image/png;base64,QUI" by decide] at h
  have hbytes : Data.bytes ⟨"data:image/png;base64,QUI", some "image/png"⟩ =
      .error (.malformedBase64 .unpadded) := by
    rw [Data.bytes_eq hspells]
    rfl
  refine ⟨_, _, dataOfFields_uri hspells rfl, rfl, hbytes, ?_⟩
  rw [Block.ofContents, Block.ofContent?_data rfl, if_pos (by decide), hbytes]
  rfl

end Parley
