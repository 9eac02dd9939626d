/-
Whose result it is.

A message may request several calls and hold several results, and a result belongs to the call that
has its identifier.  What is read gives it the name of the call that was read last, whatever its
identifier.  The two names are the same where a result stands right behind its own call, or where
the calls in between are of the same function; a result of the first of two calls that stands behind
both is taken for one of the second.
-/
import Parley.Proofs.Reply

namespace Parley

theorem Value.get?_of_entry {v x : Document} {key : String} (h : v.entry key = .ok x) :
    v.get? key = some x := by
  unfold entry at h
  split at h
  · split at h
    · rename_i hget
      rw [← Except.ok.inj h]
      exact hget
    · cases h
  · cases h
  · cases h

namespace Wire

/-! ### Calls among blocks -/

/-- The call that a block requests, if it is read as one. -/
def called? (b : Document) : Option Call :=
  match blockKind b, readCall b with
  | .ok .toolUse, .ok c => c.call?
  | _, _ => none

/-- The calls that blocks request, in order. -/
def calledBy (blocks : List Document) : List Call := blocks.filterMap called?

/-- The call that was requested last. -/
def lastCall? (blocks : List Document) : Option Call := (calledBy blocks).getLast?

/-- The call that a result belongs to: the last one with its identifier. -/
def ownCall? (id : String) (blocks : List Document) : Option Call :=
  ((calledBy blocks).filter fun c => c.id == id).getLast?

theorem called?_of_kind {b : Document} {kind : BlockKind} (h : blockKind b = .ok kind)
    (hne : kind ≠ .toolUse) : called? b = none := by
  unfold called?
  rw [h]
  cases kind <;> first | rfl | exact absurd rfl hne

/-! ### Names that are read -/

/-- What a name in data is read as. -/
def Names (d : Document) (name : Option String) : Prop :=
  Check.optional Check.string (Given.ofDocument d) = .ok name

theorem names_of_string {d : Document} {s : String}
    (h : Check.string (Given.ofDocument d) = .ok s) : Names d (some s) := by
  unfold Names Check.optional
  split
  · rename_i hnull
    rw [hnull] at h
    cases h
  · rw [h]
    rfl

theorem assemble_ok {shared : Checked (Document × Option Properties)} {body : Checked Body}
    {c : Content} (h : Content.assemble shared body = .ok c) : body = .ok c.body := by
  obtain ⟨f, b, hf, hb, rfl⟩ := Checked.ap_ok.mp h
  obtain ⟨_, -, rfl⟩ := Outcome.map_ok.mp hf
  exact hb

/-- A call is read with the name that its block has. -/
theorem readCall_named {b : Document} {c : Content} (h : readCall b = .ok c) :
    ∃ k d, c.body = .call k ∧ calledName b = .ok d ∧ Names d (some k.name) := by
  obtain ⟨use, huse, h⟩ := Outcome.bind_ok.mp h
  obtain ⟨id, -, h⟩ := Outcome.bind_ok.mp h
  obtain ⟨d, hd, h⟩ := Outcome.bind_ok.mp h
  obtain ⟨input, -, h⟩ := Outcome.bind_ok.mp h
  have hcalled : calledName b = .ok d := by
    unfold calledName
    rw [huse, Outcome.ok_bind]
    rw [Value.lookup_get? (Value.get?_of_entry hd)]
  obtain ⟨f, fault, hf, -, hbody⟩ := Checked.ap_ok.mp (assemble_ok (Checked.orInvalid_ok.mp h))
  obtain ⟨g, arguments, hg, -, rfl⟩ := Checked.ap_ok.mp hf
  obtain ⟨k, name, hk, hname, rfl⟩ := Checked.ap_ok.mp hg
  obtain ⟨id, -, rfl⟩ := Outcome.map_ok.mp hk
  exact ⟨_, d, hbody.symm, hcalled, names_of_string (Checked.named_ok.mp hname)⟩

/-- The identifier in a block about a result. -/
def resultId? (b : Document) : Option Document :=
  (b.get? "toolResult").bind fun result => result.get? "toolUseId"

/-- A result is read with the name that it is given, and with the identifier of its block. -/
theorem readResult_named {d b : Document} {c : Content} (h : readResult d b = .ok c) :
    ∃ r, c.body = .result r ∧ Names d r.name ∧ ∀ id, resultId? b = some (.str id) → r.id = id := by
  obtain ⟨result, hresult, h⟩ := Outcome.bind_ok.mp h
  obtain ⟨content, -, h⟩ := Outcome.bind_ok.mp h
  obtain ⟨items, -, h⟩ := Outcome.bind_ok.mp h
  obtain ⟨joined, -, h⟩ := Outcome.bind_ok.mp h
  obtain ⟨given, hgiven, h⟩ := Outcome.bind_ok.mp h
  obtain ⟨rest, -, h⟩ := Outcome.bind_ok.mp h
  obtain ⟨f, fault, hf, -, hbody⟩ := Checked.ap_ok.mp (assemble_ok (Checked.orInvalid_ok.mp h))
  obtain ⟨g, value, hg, -, rfl⟩ := Checked.ap_ok.mp hf
  obtain ⟨k, name, hk, hname, rfl⟩ := Checked.ap_ok.mp hg
  obtain ⟨id, hid, rfl⟩ := Outcome.map_ok.mp hk
  refine ⟨_, hbody.symm, Checked.named_ok.mp hname, fun id' hsaid => ?_⟩
  unfold resultId? at hsaid
  rw [Value.get?_of_entry hresult, Option.bind_some, Value.get?_of_entry hgiven] at hsaid
  obtain rfl := Option.some.inj hsaid
  exact (Except.ok.inj (Checked.named_ok.mp hid)).symm

/-! ### The name that is carried along -/

/-- What one block gives, and the name that the blocks behind it are read with. -/
def readBlock (name b : Document) : Except Fault (List Content × Document) := do
  match ← blockKind b with
  | .text =>
    let c ← readText b
    return ([c], name)
  | .toolUse =>
    let name ← calledName b
    let c ← readCall b
    return ([c], name)
  | .toolResult =>
    let c ← readResult name b
    return ([c], name)
  | .other =>
    let _ ← b.sequence
    return ([], name)

/-- Blocks are read one behind the other. -/
theorem readBlocks_cons (name b : Document) (rest : List Document) :
    readBlocks name (b :: rest) =
      readBlock name b >>= fun x => (readBlocks x.2 rest).map (x.1 ++ ·) := by
  have hone (d : Document) (c : Content) :
      (readBlocks d rest >>= fun more => .ok (c :: more)) = (readBlocks d rest).map ([c] ++ ·) := by
    cases readBlocks d rest <;> rfl
  rw [readBlocks]
  unfold readBlock
  cases blockKind b with
  | error f => rfl
  | ok kind =>
      cases kind with
      | text =>
          cases readText b with
          | error f => rfl
          | ok c => exact hone name c
      | toolUse =>
          cases calledName b with
          | error f => rfl
          | ok d =>
              cases readCall b with
              | error f => rfl
              | ok c => exact hone d c
      | toolResult =>
          cases readResult name b with
          | error f => rfl
          | ok c => exact hone name c
      | other =>
          cases b.sequence with
          | error f => rfl
          | ok keys =>
              show readBlocks name rest = (readBlocks name rest).map ([] ++ ·)
              cases readBlocks name rest <;> rfl

/-- Only a call changes the name. -/
theorem readBlock_names {name b d : Document} {last : Option String} {own : List Content}
    (hname : Names name last) (h : readBlock name b = .ok (own, d)) :
    Names d (((called? b).map Call.name).or last) := by
  obtain ⟨kind, hkind, h⟩ := Outcome.bind_ok.mp h
  by_cases huse : kind = .toolUse
  · subst huse
    obtain ⟨d', hd', h⟩ := Outcome.bind_ok.mp h
    obtain ⟨c, hc, h⟩ := Outcome.bind_ok.mp h
    obtain ⟨k, d'', hbody, hd'', hnames⟩ := readCall_named hc
    obtain rfl : d' = d'' := Except.ok.inj (hd'.symm.trans hd'')
    obtain rfl : d' = d := (Prod.mk.inj (Except.ok.inj h)).2
    have hcalled : called? b = some k := by
      unfold called?
      rw [hkind, hc]
      dsimp only
      unfold Content.call?
      rw [hbody]
    rw [hcalled]
    exact hnames
  · obtain rfl : name = d := by
      cases kind with
      | toolUse => exact absurd rfl huse
      | _ =>
          obtain ⟨_, -, h⟩ := Outcome.bind_ok.mp h
          exact (Prod.mk.inj (Except.ok.inj h)).2
    rw [called?_of_kind hkind huse]
    exact hname

/-- **Blocks behind others are read with the name of the call that comes last among these.** -/
theorem readBlocks_append_ok {name : Document} {last : Option String} (hname : Names name last)
    {before after : List Document} {cs : List Content}
    (h : readBlocks name (before ++ after) = .ok cs) :
    ∃ front d back, cs = front ++ back ∧ readBlocks name before = .ok front ∧
      readBlocks d after = .ok back ∧ Names d (((lastCall? before).map Call.name).or last) := by
  induction before generalizing name last cs with
  | nil => exact ⟨[], name, cs, rfl, rfl, h, hname⟩
  | cons b rest ih =>
      rw [List.cons_append, readBlocks_cons] at h
      obtain ⟨⟨own, d⟩, hone, h⟩ := Outcome.bind_ok.mp h
      obtain ⟨more, hmore, rfl⟩ := Outcome.map_ok.mp h
      obtain ⟨front, d', back, rfl, hfront, hback, hd'⟩ := ih (readBlock_names hname hone) hmore
      refine ⟨own ++ front, d', back, (List.append_assoc _ _ _).symm, ?_, hback, ?_⟩
      · rw [readBlocks_cons, hone, Outcome.ok_bind, hfront]
        rfl
      · have hlast : ((lastCall? (b :: rest)).map Call.name).or last =
            ((lastCall? rest).map Call.name).or (((called? b).map Call.name).or last) := by
          unfold lastCall? calledBy
          rw [List.filterMap_cons]
          cases called? b with
          | none => simp
          | some k =>
              dsimp only
              rw [List.getLast?_cons]
              cases (rest.filterMap called?).getLast? <;> rfl
        rwa [hlast]

/-! ### Whose name a result has -/

theorem ownCall?_eq_none {blocks : List Document} (h : lastCall? blocks = none) (id : String) :
    ownCall? id blocks = none := by
  unfold ownCall?
  rw [List.getLast?_eq_none_iff.mp h]
  rfl

/-- **A result has the name of the call that comes last before it.**  That is the name of its own
call exactly if the two calls are of the same function, or there is no call before it. -/
theorem named_as_own_call_iff {before after : List Document} {b : Document} {cs : List Content}
    (h : contents (.list (before ++ b :: after)) = .ok cs) (hkind : blockKind b = .ok .toolResult) :
    ∃ front c back r, cs = front ++ c :: back ∧ contents (.list before) = .ok front ∧
      c.body = .result r ∧ (∀ id, resultId? b = some (.str id) → r.id = id) ∧
      r.name = (lastCall? before).map Call.name ∧
      (r.name = (ownCall? r.id before).map Call.name ↔
        ∀ k, lastCall? before = some k →
          ∃ own, ownCall? r.id before = some own ∧ own.name = k.name) := by
  have hread : readBlocks .null (before ++ b :: after) = .ok cs := h
  obtain ⟨front, d, rest, rfl, hfront, hrest, hd⟩ :=
    readBlocks_append_ok (rfl : Names .null none) hread
  rw [readBlocks, hkind, Outcome.ok_bind] at hrest
  obtain ⟨c, hc, hrest⟩ := Outcome.bind_ok.mp hrest
  obtain ⟨back, -, hrest⟩ := Outcome.bind_ok.mp hrest
  obtain rfl := Except.ok.inj hrest
  obtain ⟨r, hbody, hr, hid⟩ := readResult_named hc
  have hname : r.name = (lastCall? before).map Call.name := by
    rw [← Option.or_none (o := (lastCall? before).map Call.name)]
    exact Except.ok.inj (hr.symm.trans hd)
  refine ⟨front, c, back, r, rfl, hfront, hbody, hid, hname, ?_⟩
  rw [hname]
  constructor
  · intro heq k hk
    rw [hk] at heq
    obtain ⟨own, hown, hsame⟩ := Option.map_eq_some_iff.mp heq.symm
    exact ⟨own, hown, hsame⟩
  · intro hsame
    cases hlast : lastCall? before with
    | none => rw [ownCall?_eq_none hlast]
    | some k =>
        obtain ⟨own, hown, hname⟩ := hsame k hlast
        rw [hown, Option.map_some, Option.map_some, hname]

/-- Two calls. -/
def twoCalls : List Document :=
  [Block.toolUse (.str "t1") (.str "get_weather") (.obj [("city", .str "Oslo")]),
    Block.toolUse (.str "t2") (.str "get_time") (.obj [("city", .str "Oslo")])]

/-- What the first of two calls gave. -/
def coldToday : Document :=
  Block.toolResult { id := "t1", value := .str "Cold" }

/-- What the second of two calls gave. -/
def noonThere : Document :=
  Block.toolResult { id := "t2", value := .str "Noon" }

/-- The result of the second of two calls has the name of its own call, and that of the first has
not. -/
theorem second_result_named :
    (∃ cs c r, contents (.list (twoCalls ++ [noonThere])) = .ok cs ∧ c ∈ cs ∧ c.body = .result r ∧
      r.id = "t2" ∧ r.name = (ownCall? r.id twoCalls).map Call.name) ∧
    ∃ cs c r, contents (.list (twoCalls ++ [coldToday])) = .ok cs ∧ c ∈ cs ∧ c.body = .result r ∧
      r.id = "t1" ∧ r.name ≠ (ownCall? r.id twoCalls).map Call.name := by
  have hlast : (lastCall? twoCalls).map Call.name = some "get_time" := rfl
  constructor
  · obtain ⟨cs, hcs⟩ : ∃ cs, contents (.list (twoCalls ++ [noonThere])) = .ok cs := ⟨_, rfl⟩
    obtain ⟨front, c, back, r, rfl, -, hbody, hid, -, hiff⟩ := named_as_own_call_iff hcs rfl
    refine ⟨_, c, r, hcs, by simp, hbody, hid "t2" rfl, hiff.mpr fun k hk => ⟨k, ?_, rfl⟩⟩
    rw [hid "t2" rfl, ← hk]
    rfl
  · obtain ⟨cs, hcs⟩ : ∃ cs, contents (.list (twoCalls ++ [coldToday])) = .ok cs := ⟨_, rfl⟩
    obtain ⟨front, c, back, r, rfl, -, hbody, hid, hname, -⟩ := named_as_own_call_iff hcs rfl
    have hown : (ownCall? "t1" twoCalls).map Call.name = some "get_weather" := rfl
    refine ⟨_, c, r, hcs, by simp, hbody, hid "t1" rfl, ?_⟩
    rw [hname, hlast, hid "t1" rfl, hown]
    decide

/-- So a result need not have the name of its own call. -/
theorem first_result_misnamed :
    ¬ ∀ (before after : List Document) (b : Document) (front back : List Content) (c : Content)
      (r : Result), contents (.list (before ++ b :: after)) = .ok (front ++ c :: back) →
      contents (.list before) = .ok front → blockKind b = .ok .toolResult → c.body = .result r →
      r.name = (ownCall? r.id before).map Call.name := by
  intro h
  obtain ⟨front, hfront⟩ : ∃ front, contents (.list twoCalls) = .ok front := ⟨_, rfl⟩
  obtain ⟨c, r, hcs, hbody, hr⟩ : ∃ c r, contents (.list (twoCalls ++ [coldToday])) =
      .ok (front ++ [c]) ∧ c.body = .result r ∧ r = ⟨"t1", some "get_time", .str "Cold", none⟩ := by
    obtain rfl := Except.ok.inj hfront
    exact ⟨_, _, rfl, rfl, rfl⟩
  have hname := h twoCalls [] coldToday front [] c r hcs hfront rfl hbody
  rw [hr] at hname
  have hown : (ownCall? "t1" twoCalls).map Call.name = some "get_weather" := rfl
  rw [hown] at hname
  exact absurd hname (by decide)

end Wire

end Parley
