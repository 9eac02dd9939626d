/-
Calls that arrive in fragments.

A call is under way from its start to its stop.  In between the accumulator holds
it and nothing else, and its fragments are kept in their order, so what completes
it sees the input as one text again, wherever that was cut.  A text that spells an
input is never blank; the one case in which the accumulator does not read the input
at all does not come up.
-/
import Parley.Proofs.Events
import Parley.Proofs.Reader

namespace Parley

/-! ### Text that spells a value -/

/-- A character that is drawn is no blank. -/
theorem Text.isBlank_of_drawn {c : Char} (hlow : 0x21 ≤ c.toNat) (hhigh : c.toNat < 0x85) :
    Text.isBlank c = false := by
  simp [Text.isBlank, Text.between, Text.blankBoundaries,
    show 9 ≤ c.toNat by omega, show 14 ≤ c.toNat by omega, show 28 ≤ c.toNat by omega, hlow,
    show ¬ 133 ≤ c.toNat by omega]

namespace Json

variable {α : Type} {c : Char}

theorem ne_of_blank {d : Char} (hc : Text.isBlank c = true) (hd : Text.isBlank d = false) :
    c ≠ d := by
  rintro rfl
  simp [hc] at hd

theorem word?_blank (hc : Text.isBlank c = true) (rest : List Char) :
    (word? (c :: rest) : Option (Value α × List Char)) = none := by
  have hbeq (d : Char) (hd : Text.isBlank d = false) : (d == c) = false := by
    simpa using (ne_of_blank hc hd).symm
  simp [word?, words, List.isPrefixOf, hbeq 'n' (by decide), hbeq 't' (by decide),
    hbeq 'f' (by decide), hbeq 'N' (by decide), hbeq 'I' (by decide), hbeq '-' (by decide)]

theorem number_blank (hc : Text.isBlank c = true) (rest : List Char) :
    (number (c :: rest) : Except Stop (Value α × List Char)) = complain .value (c :: rest) := by
  have hdigit : isDigit c = false := by
    by_contra hdigit
    have hbounds : 0x30 ≤ c.toNat ∧ c.toNat ≤ 0x39 := by
      simpa [isDigit, Char.le_def, UInt32.le_iff_toNat_le] using hdigit
    rw [Text.isBlank_of_drawn (by omega) (by omega)] at hc
    exact Bool.false_ne_true hc
  have hminus : c ≠ '-' := ne_of_blank hc (by decide)
  have hwhole : wholePart (c :: rest) = none := by
    rw [wholePart]
    · simp [hdigit]
    · exact ne_of_blank hc (by decide)
  simp [number, hwhole, hminus]

/-- **No value begins with a blank** that is not space between tokens. -/
theorem value_blank {levels n : Nat} {cs : List Char} (hblank : cs.all Text.isBlank = true)
    (found : Value α × List Char) : value levels n cs ≠ .ok found := by
  intro h
  cases n with
  | zero => simp [value, complain] at h
  | succ n =>
      cases cs with
      | nil => simp [value, word?, words, number, wholePart, complain] at h
      | cons c rest =>
          have hc : Text.isBlank c = true := by
            rw [List.all_cons, Bool.and_eq_true] at hblank
            exact hblank.1
          have hquote : c ≠ '"' := ne_of_blank hc (by decide)
          have hbrace : c ≠ '\x7b' := ne_of_blank hc (by decide)
          have hbracket : c ≠ '[' := ne_of_blank hc (by decide)
          simp [value, hquote, hbrace, hbracket, word?_blank hc, number_blank hc, complain] at h

/-- A text that spells a value is not blank. -/
theorem not_blank_of_parse {s : String} {v : Value α} (h : parse s = .ok v) :
    s.toList.all Text.isBlank = false := by
  by_contra hblank
  have hall : s.toList.all Text.isBlank = true := by simpa using hblank
  have hskip : (skipSpace s.toList).all Text.isBlank = true := by
    rw [List.all_eq_true] at hall ⊢
    exact fun c hc => hall c (List.dropWhile_sublist _ |>.subset hc)
  unfold parse at h
  split at h
  · simp at h
  · unfold parseChars at h
    split at h
    · simp at h
    · rename_i found
      exact value_blank hskip _ found

end Json

/-! ### Any calls under way -/

theorem Key.same_number (k : Key) (i : Int) : k.same (.number i) = decide (k = .number i) := by
  have hlone : Key.number i ≠ .lone := by simp
  by_cases h : k = .number i <;> simp [same, h]

theorem Value.lookup_obj (entries : Properties) (key : String) (default : Document) :
    (Value.obj entries).lookup key default = .ok ((Entries.get? entries key).getD default) := rfl

namespace Accumulator

variable {event : Document} {i : Int} {id name s : String}

theorem toolPart_payload {kind : EventKind} {key : String} {use : Document}
    (h : event.at? [kind.key, key, "toolUse"] = some use) :
    toolPart (kind.payload event) key = .ok use := by
  obtain ⟨part, hpart, huse⟩ := (Value.at?_concat_eq_some [kind.key, key]).mp h
  unfold toolPart
  rw [EventKind.get?_payload, hpart]
  exact Value.lookup_get? huse _

/-- A call that is taken away is gone, and the others are found as before. -/
theorem get?_erase (a : Accumulator) (i j : Int) :
    (a.erase (.number i)).get? (.number j) = if i = j then none else a.get? (.number j) := by
  unfold erase get?
  simp only [Key.same_number, List.find?_filter]
  by_cases h : i = j
  · simp [h]
  · have hother (k : Key) : (k ≠ .number i ∧ k = .number j) ↔ k = .number j :=
      ⟨And.right, fun hk => ⟨by rw [hk]; simpa using Ne.symm h, hk⟩⟩
    simp [h, hother]

/-- A call that is put at an index is found there, and the others are found as before. -/
theorem get?_put (a : Accumulator) (i j : Int) (p : Pending) :
    (a.put (.number i) p).get? (.number j) = if i = j then some p else a.get? (.number j) := by
  by_cases h : i = j
  · simp [h, put, get?, Key.same_number]
  · have hother : (a.put (.number i) p).get? (.number j) =
        (a.erase (.number i)).get? (.number j) := by
      simp [put, erase, get?, Key.same_number, h]
    rw [hother, get?_erase, if_neg h, if_neg h]

/-- A start puts a call without fragments at its index. -/
theorem feed_startsCall (a : Accumulator) (h : StartsCall i id name event) :
    a.feed event = (a.put (.number i) { id := .str id, name := .str name }, {}) := by
  obtain ⟨entries, huse, hne, hid, hname⟩ := h.use
  have hset : (Value.obj entries : Document).isSet = true := by
    simpa [Value.isSet] using hne
  have hstart : a.start (EventKind.payload .blockStart event) (.int i) =
      .ok (a.put (.number i) { id := .str id, name := .str name }) := by
    unfold start
    rw [toolPart_payload huse, Outcome.ok_bind, hset, Value.lookup_obj, hid, Value.lookup_obj,
      hname]
    rfl
  unfold feed
  rw [h.kind]
  dsimp only
  rw [EventKind.index_eq, h.index, hstart]

/-- A fragment goes behind those of the call at its index; without such a call it is left out. -/
theorem feed_extendsCall (a : Accumulator) (h : ExtendsCall i s event) :
    a.feed event = (match a.get? (.number i) with
      | none => a
      | some p => a.put (.number i) { p with fragments := p.fragments ++ [s] }, {}) := by
  obtain ⟨entries, huse, hinput⟩ := h.use
  have hextend : a.extend (EventKind.payload .blockDelta event) (.int i) =
      .ok (match a.get? (.number i) with
        | none => a
        | some p => a.put (.number i) { p with fragments := p.fragments ++ [s] }) := by
    unfold extend
    rw [toolPart_payload huse, Outcome.ok_bind, show (Value.obj entries : Document).isNull = false
      from rfl, if_neg Bool.false_ne_true, show Key.ofValue (.int i) = .ok (.number i) from rfl,
      Outcome.ok_bind]
    rw [Value.lookup_obj, hinput]
    cases a.get? (.number i) <;> rfl
  unfold feed
  rw [h.kind]
  dsimp only
  rw [EventKind.index_eq, h.index, hextend]

/-- A stop takes the call at its index away and completes it. -/
theorem feed_stopsBlock (a : Accumulator) (h : StopsBlock i event) :
    a.feed event = match a.get? (.number i) with
      | none => (a, {})
      | some p => (a.erase (.number i), p.complete event) := by
  unfold feed
  rw [h.kind]
  dsimp only
  rw [EventKind.index_eq, h.index]
  rfl

/-! ### One call under way -/

/-- The accumulator with one call under way. -/
def only (i : Int) (p : Pending) : Accumulator := ⟨[(.number i, p)]⟩

theorem get?_only (i : Int) (p : Pending) : (only i p).get? (.number i) = some p := by
  simp [only, get?, Key.same_number]

theorem put_only (i : Int) (p q : Pending) : (only i p).put (.number i) q = only i q := by
  simp [only, put, Key.same_number]

theorem erase_only (i : Int) (p : Pending) : (only i p).erase (.number i) = {} := by
  simp [only, erase, Key.same_number]

theorem feed_start (h : IsCallStart i id name event) :
    feed {} event = (only i { id := .str id, name := .str name }, {}) :=
  feed_startsCall {} h.startsCall

theorem feed_fragment {p : Pending} (h : IsFragment i s event) :
    feed (only i p) event = (only i { p with fragments := p.fragments ++ [s] }, {}) := by
  rw [feed_extendsCall _ h.extendsCall, get?_only]
  dsimp only
  rw [put_only]

theorem feed_stop {p : Pending} (h : IsBlockStop i event) :
    feed (only i p) event = ({}, p.complete event) := by
  rw [feed_stopsBlock _ h.stopsBlock, get?_only]
  dsimp only
  rw [erase_only]

/-- A block that ends while no call is under way completes none. -/
theorem feed_idle_stop (h : IsBlockStop i event) : feed {} event = ({}, {}) :=
  feed_stopsBlock {} h.stopsBlock

end Accumulator

/-! ### What is completed -/

/-- What an input that is JSON is kept as.  An array, a number and a truth value are not kept. -/
def Arguments.ofInput? : Document → Option Arguments
  | .obj input => some (.entries input)
  | .str s => some (.text s)
  | .null => some .absent
  | _ => none

/-- The fault of a call whose input is not kept. -/
def Arguments.refusal : Fault :=
  .invalid "FunctionCallContent"
    [⟨[.field "arguments", .field "dict[str,any]"], .objectType⟩,
      ⟨[.field "arguments", .field "str"], .stringType⟩]

/-- **A call whose fragments spell a JSON value is completed with what that is kept as**, or with a
fault if it is not kept, and nothing is noted. -/
theorem Pending.complete_parsed {parts : List String} {v : Document}
    (h : Json.parse (String.join parts) = .ok v) (id name : String) (event : Document) :
    (Pending.mk (.str id) (.str name) parts).complete event =
      { call := match Arguments.ofInput? v with
          | some arguments => .ok (some ⟨.call { id, name, arguments }, event, none⟩)
          | none => .error Arguments.refusal } := by
  have harguments : (Pending.mk (.str id) (.str name) parts).arguments = .ok (v, none) := by
    unfold arguments Pending.input
    rw [Json.not_blank_of_parse h, if_neg Bool.false_ne_true, h]
  have hjson := (Json.parse_fits h).json
  unfold complete
  rw [harguments]
  cases v with
  | obj entries =>
      show Fed.mk (.ok (some ⟨.call ⟨id, name, .entries (Given.documents
        (Value.bindEntries (fun o => .leaf (.foreign o)) entries)), none⟩,
        Given.document (Given.ofDocument event), none⟩)) [] = _
      rw [Given.document_ofDocument, Given.documents_wrapped]
      rfl
  | str s =>
      show Fed.mk (.ok (some ⟨.call ⟨id, name, .text s, none⟩,
        Given.document (Given.ofDocument event), none⟩)) [] = _
      rw [Given.document_ofDocument]
      rfl
  | null =>
      show Fed.mk (.ok (some ⟨.call ⟨id, name, .absent, none⟩,
        Given.document (Given.ofDocument event), none⟩)) [] = _
      rw [Given.document_ofDocument]
      rfl
  | list items => rfl
  | bool b => rfl
  | int n => rfl
  | float x => rfl
  | bytes b => cases hjson
  | tuple items => cases hjson
  | leaf o => cases hjson

/-- A call whose fragments spell its input is completed with that input, and nothing is noted. -/
theorem Pending.complete_spelled {id name : String} {parts : List String} {input : Properties}
    (h : Json.parse (String.join parts) = .ok (.obj input)) (event : Document) :
    (Pending.mk (.str id) (.str name) parts).complete event =
      { call := .ok (some ⟨.call { id, name, arguments := .entries input }, event, none⟩) } :=
  complete_parsed h id name event

/-- A text that is read as an object of one string. -/
theorem Json.parse_eq_single {s key text : String}
    (h : (match (Json.parse s : Except Json.Flaw Document) with
      | .ok (.obj [(k, .str t)]) => k == key && t == text
      | _ => false) = true) : Json.parse s = .ok (.obj [(key, .str text)] : Document) := by
  generalize (Json.parse s : Except Json.Flaw Document) = r at h
  split at h
  · simp only [Bool.and_eq_true, beq_iff_eq] at h
    rw [h.1, h.2]
  · cases h

/-- A text that cannot be read. -/
theorem Json.parse_eq_error {s : String} {f : Json.Flaw}
    (h : (match (Json.parse s : Except Json.Flaw Document) with
      | .ok _ => false
      | .error g => decide (g = f)) = true) :
    (Json.parse s : Except Json.Flaw Document) = .error f := by
  generalize (Json.parse s : Except Json.Flaw Document) = r at h
  cases r with
  | ok v => cases h
  | error g => rw [of_decide_eq_true h]

/-- What the input of a call comes to: a blank one means no arguments, a JSON object is taken as it
is, and a text that is no JSON is kept beside what is wrong with it.  A text that cannot be read for
another reason, since it is nested too deep or has too long a number, comes to nothing. -/
inductive Spells (s : String) : Arguments → Option Fault → Prop
  | blank (h : s.toList.all Text.isBlank = true) : Spells s (.entries []) none
  | object {entries : Properties} (h : Json.parse s = .ok (.obj entries)) :
      Spells s (.entries entries) none
  | malformed {complaint : Json.Complaint} {line column offset : Nat}
      (hblank : s.toList.all Text.isBlank = false)
      (h : (Json.parse s : Except Json.Flaw Document) =
        .error (.syntaxError complaint line column offset)) :
      Spells s (.text s) (some (.malformedJson (.syntaxError complaint line column offset)))

theorem Pending.complete_spells {parts : List String} {arguments : Arguments}
    {fault : Option Fault} (h : Spells (String.join parts) arguments fault) (id name : String)
    (event : Document) :
    ∃ notes, (Pending.mk (.str id) (.str name) parts).complete event =
      { call := .ok (some ⟨.call ⟨id, name, arguments, fault⟩, event, none⟩), notes } := by
  cases h with
  | blank h =>
      unfold complete Pending.arguments Pending.input
      rw [h, if_pos rfl]
      refine ⟨[], ?_⟩
      show Fed.mk (.ok (some _)) [] = _
      rw [Given.document_ofDocument]
      rfl
  | object h => exact ⟨[], complete_spelled h event⟩
  | @malformed complaint line column offset hblank h =>
      unfold complete Pending.arguments Pending.input
      rw [hblank, if_neg Bool.false_ne_true, h]
      refine ⟨[⟨.warning, .converse, "Could not parse streamed input for tool '" ++
        (Value.str name : Document).display ++ "': " ++
        (Fault.malformedJson (.syntaxError complaint line column offset)).message⟩], ?_⟩
      show Fed.mk (.ok (some _)) _ = _
      rw [Given.document_ofDocument]

end Parley
