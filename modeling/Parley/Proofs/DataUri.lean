/-
Data URIs, taken apart as their pattern says.

`Spells` is the pattern: `data:`, a media type or nothing, parameters, `base64` and any text after
the comma.  None of what stands in front of the comma holds a comma or, within itself, a semicolon,
so a text can be an instance of the pattern in one way only, and `parts?` finds it.  That the marks
do not stand in words is read off the table of categories, which is long: only its beginning, where
the ASCII characters are, is looked at.
-/
import Parley.Chat.DataUri

namespace Parley

/-! ### Words in ASCII -/

namespace Text

open Category

/-- The runs of ASCII characters, and the run after them. -/
def asciiRuns : List (Nat × Char) :=
  (startsLow.take 30).zip "ZWRTRNORSRMRIRSRANROULUBNSOSZW".toList

theorem take_runs : runs.take 30 = asciiRuns := by
  have hstarts : runStarts.take 30 = startsLow.take 30 := by
    unfold runStarts
    rw [List.append_assoc, List.append_assoc, List.take_append_of_le_length (by decide +kernel)]
  have hletters : runLetters.toList.take 30 = "ZWRTRNORSRMRIRSRANROULUBNSOSZW".toList := by
    unfold runLetters
    simp only [String.toList_append, List.append_assoc]
    rw [List.take_append_of_le_length (by decide +kernel)]
    decide +kernel
  unfold runs asciiRuns
  rw [List.zip_eq_zipWith, List.take_zipWith, hstarts, hletters]
  rfl

/-- Once a run begins behind a number, the runs after it are not looked at. -/
theorem runOf_take {n k : Nat} {table : List (Nat × Char)} {run : Nat × Char}
    (h : (table.take k).getLast? = some run) (hn : n < run.1) (found : Nat × Char) :
    runOf n found table = runOf n found (table.take k) := by
  induction table generalizing k found with
  | nil => simp
  | cons first rest ih =>
      cases k with
      | zero => cases h
      | succ k =>
          rw [List.take_succ_cons] at h ⊢
          rw [runOf, runOf]
          cases hrest : rest.take k with
          | nil =>
              rw [hrest] at h
              obtain rfl : first = run := by simpa using h
              rw [if_neg (by omega), if_neg (by omega)]
          | cons second more =>
              have hlast : (rest.take k).getLast? = some run := by
                rw [hrest, List.getLast?_cons_cons] at h
                rwa [hrest]
              rw [ih hlast, hrest]

/-- **Of the ASCII characters, the letters, the digits and the underscore stand in words.** -/
theorem isWord_ascii {c : Char} (hc : c.toNat < 0x80) :
    isWord c = (c.isAlphanum || c = '_') := by
  have hall : ∀ n < 0x80,
      let category := inRun (Char.ofNat n) (runOf n (0, 'Z') asciiRuns)
      (Char.ofNat n = '_' || allLetters.contains category || allNumbers.contains category) =
        ((Char.ofNat n).isAlphanum || Char.ofNat n = '_') := by
    decide +kernel
  have hlast : (runs.take 30).getLast? = some (0xa0, 'W') := by
    rw [take_runs]
    decide +kernel
  have hrun : runOf c.toNat (0, 'Z') runs = runOf c.toNat (0, 'Z') asciiRuns := by
    rw [runOf_take hlast (by omega), take_runs]
  have h := hall c.toNat hc
  rw [Char.ofNat_toNat] at h
  unfold isWord isOf category
  rw [hrun]
  exact h

/-! ### Texts put together from pieces -/

theorem splitChars_of_not_mem {mark : Char} {cs : List Char} (h : mark ∉ cs) :
    splitChars mark cs = [cs] := by
  induction cs with
  | nil => rfl
  | cons c rest ih =>
      have hc : c ≠ mark := fun heq => h (by simp [heq])
      rw [splitChars, if_neg hc, ih fun hmem => h (by simp [hmem])]

theorem splitChars_append {mark : Char} {cs : List Char} (h : mark ∉ cs) (more : List Char) :
    splitChars mark (cs ++ mark :: more) = cs :: splitChars mark more := by
  induction cs with
  | nil => exact if_pos rfl
  | cons c rest ih =>
      have hc : c ≠ mark := fun heq => h (by simp [heq])
      rw [List.cons_append, splitChars, if_neg hc, ih fun hmem => h (by simp [hmem])]

/-- Pieces that a mark was put in front of are found again. -/
theorem splitChars_flatMap {mark : Char} {first : List Char} {pieces : List (List Char)}
    (hfirst : mark ∉ first) (h : ∀ p ∈ pieces, mark ∉ p) :
    splitChars mark (first ++ pieces.flatMap (mark :: ·)) = first :: pieces := by
  induction pieces generalizing first with
  | nil =>
      rw [List.flatMap_nil, List.append_nil]
      exact splitChars_of_not_mem hfirst
  | cons p rest ih =>
      rw [List.flatMap_cons, List.cons_append, splitChars_append hfirst,
        ih (h p (by simp)) fun q hq => h q (by simp [hq])]

theorem splitChars_ne_nil (mark : Char) (cs : List Char) : splitChars mark cs ≠ [] := by
  cases cs with
  | nil => simp [splitChars]
  | cons c rest =>
      rw [splitChars]
      split
      · simp
      · split <;> simp

/-- The pieces of a text, with the mark in front of all but the first, are the text. -/
theorem flatMap_of_splitChars {mark : Char} {cs first : List Char} {pieces : List (List Char)}
    (h : splitChars mark cs = first :: pieces) : cs = first ++ pieces.flatMap (mark :: ·) := by
  induction cs generalizing first pieces with
  | nil =>
      cases h
      rfl
  | cons c rest ih =>
      rw [splitChars] at h
      obtain ⟨p, more, hsplit⟩ := List.exists_cons_of_ne_nil (splitChars_ne_nil mark rest)
      rw [hsplit] at h
      rw [ih hsplit]
      by_cases hc : c = mark
      · rw [if_pos hc] at h
        cases h
        rw [hc]
        rfl
      · rw [if_neg hc] at h
        cases h
        rfl

/-- A text up to a character, and from it on. -/
theorem takeWhile_ne {mark : Char} {cs : List Char} (h : mark ∉ cs) (more : List Char) :
    (cs ++ mark :: more).takeWhile (· != mark) = cs ∧
      (cs ++ mark :: more).dropWhile (· != mark) = mark :: more := by
  have hall : ∀ c ∈ cs, (c != mark) = true := fun c hc => by
    simpa using fun heq : c = mark => h (heq ▸ hc)
  rw [List.takeWhile_append_of_pos hall, List.dropWhile_append_of_pos hall]
  simp

/-- What is dropped up to a character begins with it. -/
theorem eq_of_dropWhile_ne {mark c : Char} {cs more : List Char}
    (h : cs.dropWhile (· != mark) = c :: more) : cs = cs.takeWhile (· != mark) ++ mark :: more := by
  have hc := List.head?_dropWhile_not (· != mark) cs
  rw [h] at hc
  have hc : c = mark := by simpa using hc
  rw [← hc, ← h, hc, List.takeWhile_append_dropWhile]

end Text

/-! ### The pattern of a data URI -/

namespace DataUri

/-- A word of characters of one kind: at least one, and no others. -/
def Word (kind : Char → Bool) (cs : List Char) : Prop :=
  cs ≠ [] ∧ ∀ c ∈ cs, kind c = true

/-- Two words with a slash between them. -/
def MediaType (cs : List Char) : Prop :=
  ∃ top sub, Word isTypeChar top ∧ Word isTypeChar sub ∧ cs = top ++ '/' :: sub

/-- What stands between `data:` and the comma. -/
def head (mediaType : Option String) (parameters : List (List Char)) : List Char :=
  (mediaType.getD "").toList ++ (parameters ++ ["base64".toList]).flatMap (';' :: ·)

/-- The pattern of a data URI, and what its two named parts are in it. -/
structure Spells (uri : String) (p : Parts) : Prop where
  typed : ∀ m, p.mediaType = some m → MediaType m.toList
  spelled : ∃ parameters, (∀ q ∈ parameters, Word isParameterChar q) ∧
    uri.toList = "data:".toList ++ (head p.mediaType parameters ++ ',' :: p.data)

variable {kind : Char → Bool} {cs : List Char}

theorem Word.not_mem {mark : Char} (h : Word kind cs) (hmark : kind mark = false) : mark ∉ cs := by
  intro hmem
  rw [h.2 mark hmem] at hmark
  cases hmark

theorem word_iff : Word kind cs ↔ (!cs.isEmpty && cs.all kind) = true := by
  unfold Word
  simp

theorem isTypeChar_ascii {c : Char} (hc : c.toNat < 0x80) :
    isTypeChar c = (c.isAlphanum || c = '_' || c = '.' || c = '+' || c = '-') := by
  unfold isTypeChar
  rw [Text.isWord_ascii hc]
  rfl

theorem isParameterChar_ascii {c : Char} (hc : c.toNat < 0x80) :
    isParameterChar c = (c.isAlphanum || c = '_' || c = '=' || c = '-') := by
  unfold isParameterChar
  rw [Text.isWord_ascii hc]
  rfl

/-- A word of ASCII characters, told without the table. -/
theorem word_ascii (h : (!cs.isEmpty && cs.all fun c => c.toNat < 0x80 &&
    (c.isAlphanum || c = '_' || c = '.' || c = '+' || c = '-')) = true) : Word isTypeChar cs := by
  obtain ⟨hne, hall⟩ := word_iff.mpr h
  refine ⟨hne, fun c hc => ?_⟩
  obtain ⟨hascii, hplain⟩ := Bool.and_eq_true_iff.mp (hall c hc)
  rw [isTypeChar_ascii (of_decide_eq_true hascii), hplain]

/-- None of the marks that take a URI apart stands in a media type. -/
theorem not_isTypeChar {c : Char} (hc : c = ',' ∨ c = ';' ∨ c = '/') : isTypeChar c = false := by
  rcases hc with rfl | rfl | rfl <;> exact (isTypeChar_ascii (by decide)).trans (by decide)

/-- Neither does one stand in a parameter. -/
theorem not_isParameterChar {c : Char} (hc : c = ',' ∨ c = ';') : isParameterChar c = false := by
  rcases hc with rfl | rfl <;> exact (isParameterChar_ascii (by decide)).trans (by decide)

theorem isMediaType_iff : isMediaType cs = true ↔ MediaType cs := by
  constructor
  · intro h
    unfold isMediaType at h
    dsimp only at h
    split at h
    · rename_i sub hdrop
      simp only [Bool.and_eq_true, and_assoc] at h
      obtain ⟨htop, htops, hsub, hsubs⟩ := h
      refine ⟨_, sub, word_iff.mpr ?_, word_iff.mpr ?_, Text.eq_of_dropWhile_ne hdrop⟩
      · rw [htop, htops]
        rfl
      · rw [hsub, hsubs]
        rfl
    · cases h
  · rintro ⟨top, sub, htop, hsub, rfl⟩
    obtain ⟨htake, hdrop⟩ := Text.takeWhile_ne (htop.not_mem (not_isTypeChar (.inr (.inr rfl)))) sub
    unfold isMediaType
    rw [htake, hdrop]
    dsimp only
    rw [Bool.and_assoc, word_iff.mp htop, word_iff.mp hsub]
    rfl

theorem MediaType.not_mem {mark : Char} (h : MediaType cs) (hmark : mark = ',' ∨ mark = ';') :
    mark ∉ cs := by
  obtain ⟨top, sub, htop, hsub, rfl⟩ := h
  have hno : isTypeChar mark = false := not_isTypeChar (hmark.imp_right .inl)
  have hslash : mark ≠ '/' := by rcases hmark with rfl | rfl <;> decide
  simp [htop.not_mem hno, hsub.not_mem hno, hslash]

theorem MediaType.ne_nil (h : MediaType cs) : cs ≠ [] := by
  obtain ⟨top, sub, -, -, rfl⟩ := h
  simp

/-! ### Taking a URI apart -/

variable {uri : String} {p : Parts} {mediaType : Option String} {parameters : List (List Char)}

theorem not_mem_pieces (h : ∀ q ∈ parameters, Word isParameterChar q) {mark : Char}
    (hmark : mark = ',' ∨ mark = ';') : ∀ q ∈ parameters ++ ["base64".toList], mark ∉ q := by
  intro q hq
  rcases List.mem_append.mp hq with hq | hq
  · exact (h q hq).not_mem (not_isParameterChar hmark)
  · rw [List.mem_singleton.mp hq]
    rcases hmark with rfl | rfl <;> decide

theorem not_mem_mediaType (h : ∀ m, mediaType = some m → MediaType m.toList) {mark : Char}
    (hmark : mark = ',' ∨ mark = ';') : mark ∉ (mediaType.getD "").toList := by
  cases mediaType with
  | none => simp
  | some m => exact (h m rfl).not_mem hmark

/-- The first comma is the one behind the head. -/
theorem comma_not_mem_head (h : ∀ m, mediaType = some m → MediaType m.toList)
    (hp : ∀ q ∈ parameters, Word isParameterChar q) : ',' ∉ head mediaType parameters := by
  intro hmem
  rcases List.mem_append.mp hmem with hmem | hmem
  · exact not_mem_mediaType h (.inl rfl) hmem
  · obtain ⟨q, hq, hmem⟩ := List.mem_flatMap.mp hmem
    exact not_mem_pieces hp (.inl rfl) q hq (by simpa using hmem)

/-- The pieces of the head are what it was put together from. -/
theorem splitChars_head (h : ∀ m, mediaType = some m → MediaType m.toList)
    (hp : ∀ q ∈ parameters, Word isParameterChar q) :
    Text.splitChars ';' (head mediaType parameters) =
      (mediaType.getD "").toList :: (parameters ++ ["base64".toList]) :=
  Text.splitChars_flatMap (not_mem_mediaType h (.inr rfl)) (not_mem_pieces hp (.inr rfl))

/-- What is left of a URI behind `data:` is taken apart at the first comma, and what stands in
front of it at the semicolons. -/
theorem parts?_eq {rest : List Char} (h : uri.toList = "data:".toList ++ rest) :
    parts? uri = match rest.dropWhile (· != ',') with
      | [] => none
      | _ :: data => match Text.splitChars ';' (rest.takeWhile (· != ',')) with
        | [] => none
        | first :: pieces =>
          if (first.isEmpty || isMediaType first) && pieces.getLast? == some "base64".toList &&
              pieces.dropLast.all (fun q => !q.isEmpty && q.all isParameterChar) then
            some ⟨if first.isEmpty then none else some (String.ofList first), data⟩
          else none := by
  unfold parts?
  rw [h]
  rfl

theorem parts?_of_spells (h : Spells uri p) : parts? uri = some p := by
  obtain ⟨parameters, hparameters, huri⟩ := h.spelled
  obtain ⟨htake, hdrop⟩ := Text.takeWhile_ne (comma_not_mem_head h.typed hparameters) p.data
  rw [parts?_eq huri, hdrop, htake]
  dsimp only
  rw [splitChars_head h.typed hparameters]
  dsimp only
  have hall : parameters.all (fun q => !q.isEmpty && q.all isParameterChar) = true :=
    List.all_eq_true.mpr fun q hq => word_iff.mp (hparameters q hq)
  rw [List.getLast?_concat, List.dropLast_concat, hall]
  rcases p with ⟨_ | m, data⟩
  · rfl
  · have htyped := h.typed m rfl
    have hset : m.toList.isEmpty = false := by simpa using htyped.ne_nil
    simp [hset, isMediaType_iff.mpr htyped]

/-- What is taken apart begins with `data:`. -/
theorem exists_rest (h : parts? uri = some p) : ∃ rest, uri.toList = "data:".toList ++ rest := by
  unfold parts? at h
  split at h
  · exact ⟨_, ‹_›⟩
  · cases h

theorem spells_of_parts? (h : parts? uri = some p) : Spells uri p := by
  obtain ⟨rest, huri⟩ := exists_rest h
  rw [parts?_eq huri] at h
  split at h
  · cases h
  rename_i mark data hdrop
  split at h
  · cases h
  rename_i first pieces hsplit
  split at h
  case isFalse => cases h
  rename_i hfits
  simp only [Bool.and_eq_true, and_assoc, Bool.or_eq_true, beq_iff_eq] at hfits
  obtain ⟨hfirst, hlast, hparameters⟩ := hfits
  obtain rfl := Option.some.inj h
  obtain ⟨parameters, rfl⟩ := List.getLast?_eq_some_iff.mp hlast
  rw [List.dropLast_concat] at hparameters
  have hhead : rest.takeWhile (· != ',') = head
      (if first.isEmpty then none else some (String.ofList first)) parameters := by
    unfold head
    rw [Text.flatMap_of_splitChars hsplit]
    cases first with
    | nil => rfl
    | cons c more => simp
  refine ⟨fun m hm => ?_, parameters, fun q hq => ?_, ?_⟩
  · dsimp only at hm
    split at hm
    · cases hm
    · rw [← Option.some.inj hm, String.toList_ofList]
      exact isMediaType_iff.mp (hfirst.resolve_left ‹_›)
  · exact word_iff.mpr (List.all_eq_true.mp hparameters q hq)
  · rw [huri, ← hhead, ← Text.eq_of_dropWhile_ne hdrop]

/-- **A URI is taken apart where it is an instance of the pattern, and into the parts that the
pattern names.** -/
theorem parts?_iff : parts? uri = some p ↔ Spells uri p :=
  ⟨spells_of_parts?, parts?_of_spells⟩

/-- A media type and any text make a URI, and are its parts. -/
theorem spells_plain {m : String} (hm : MediaType m.toList) (cs : List Char) :
    Spells ("data:" ++ m ++ ";base64," ++ String.ofList cs) ⟨some m, cs⟩ := by
  refine ⟨fun m' h => ?_, [], by simp, ?_⟩
  · rwa [← Option.some.inj h]
  · simp only [String.toList_append, String.toList_ofList]
    rw [head]
    simp

/-- The URI of some bytes has their media type, and their base64 text behind the comma. -/
theorem spells_ofBytes {m : String} (hm : MediaType m.toList) (b : List UInt8) :
    Spells (ofBytes m b) ⟨some m, Base64.encode b⟩ :=
  spells_plain hm (Base64.encode b)

end DataUri

end Parley
