/-
Looking things up, and replacing leaves.

Two facts carry most of what is said about data.  A key that is written is found
again, and writing it hides no other key; where no key is written twice, entries
may also be left out or put in another order, and writing entries over others one
layer after another is writing them all at once.  Replacing the foreign leaves of a
tree twice is replacing them once with both steps in a row; so data that is
wrapped for a caller and unwrapped again is the data it was.
-/
import Parley.Access
import Parley.Given

namespace Parley

namespace Entries

variable {β : Type}

@[simp] theorem get?_nil (key : String) : get? ([] : List (String × β)) key = none := rfl

theorem get?_cons (e : String × β) (entries : List (String × β)) (key : String) :
    get? (e :: entries) key = if e.1 = key then some e.2 else get? entries key := by
  unfold get?
  by_cases h : e.1 = key <;> simp [h]

theorem get?_append (a b : List (String × β)) (key : String) :
    get? (a ++ b) key = (get? a key).or (get? b key) := by
  induction a with
  | nil => rfl
  | cons e rest ih =>
      rw [List.cons_append, get?_cons, get?_cons, ih]
      by_cases h : e.1 = key <;> simp [h]

/-- A key that is written is found, and every other key is found as before. -/
theorem get?_put (entries : List (String × β)) (key name : String) (v : β) :
    get? (put entries key v) name = if key = name then some v else get? entries name := by
  induction entries with
  | nil => rw [put, get?_cons]
  | cons e rest ih =>
      unfold put
      by_cases h : e.1 = key
      · rw [if_pos (by simpa using h), get?_cons, get?_cons]
        by_cases hn : key = name <;> simp [h, hn]
      · rw [if_neg (by simpa using h), get?_cons, get?_cons, ih]
        by_cases hn : key = name
        · have hne : e.1 ≠ name := hn ▸ h
          simp [hn, hne]
        · simp [hn]

theorem get?_union {under top : List (String × β)} {key : String} {v : β}
    (h : get? (union under top) key = some v) : (key, v) ∈ top ∨ get? under key = some v := by
  unfold union at h
  induction top generalizing under with
  | nil => exact .inr h
  | cons e rest ih =>
      rcases ih h with hmem | hget
      · exact .inl (List.mem_cons_of_mem _ hmem)
      · rw [get?_put] at hget
        by_cases hk : e.1 = key
        · rw [if_pos hk] at hget
          have he : (key, v) = e := by rw [← hk, ← Option.some.inj hget]
          exact .inl (by simp [he])
        · rw [if_neg hk] at hget
          exact .inr hget

/-- Of entries that are written over others the last one of a key is found, and those under them
where there is none. -/
theorem get?_union_last (under top : List (String × β)) (key : String) :
    get? (union under top) key =
      ((top.filter fun e => e.1 == key).getLast?.map Prod.snd).or (get? under key) := by
  unfold union
  induction top generalizing under with
  | nil => rfl
  | cons e rest ih =>
      rw [List.foldl_cons, ih, get?_put, List.filter_cons]
      by_cases hk : e.1 = key
      · rw [if_pos hk, if_pos (by simpa using hk), List.getLast?_cons]
        cases (rest.filter fun e => e.1 == key).getLast? <;> rfl
      · rw [if_neg hk, if_neg (by simpa using hk)]

theorem mem_of_get?_ofPairs {pairs : List (String × β)} {key : String} {v : β}
    (h : get? (ofPairs pairs) key = some v) : (key, v) ∈ pairs := by
  rcases get?_union h with h | h
  · exact h
  · simp at h

theorem mem_of_get? {entries : List (String × β)} {key : String} {v : β}
    (h : get? entries key = some v) : (key, v) ∈ entries := by
  induction entries with
  | nil => simp at h
  | cons d rest ih =>
      rw [get?_cons] at h
      by_cases hk : d.1 = key
      · rw [if_pos hk] at h
        rw [← hk, ← Option.some.inj h]
        exact List.mem_cons_self
      · rw [if_neg hk] at h
        exact List.mem_cons_of_mem d (ih h)

theorem get?_eq_none {entries : List (String × β)} {key : String} :
    get? entries key = none ↔ key ∉ entries.map Prod.fst := by
  induction entries with
  | nil => simp
  | cons e rest ih =>
      rw [get?_cons, List.map_cons, List.mem_cons, not_or, ← ih]
      by_cases h : e.1 = key
      · simp [h]
      · simp [h, Ne.symm h]

/-- Entries agree on what is a key of neither. -/
theorem get?_eq_of_subset {entries entries' : List (String × β)} {keys : List String} {key : String}
    (h : entries.map Prod.fst ⊆ keys) (h' : entries'.map Prod.fst ⊆ keys) (hkey : key ∉ keys) :
    get? entries key = get? entries' key := by
  rw [get?_eq_none.mpr fun hmem => hkey (h hmem), get?_eq_none.mpr fun hmem => hkey (h' hmem)]

/-- Where nothing is written over an entry it is found as it was. -/
theorem get?_union_none {under top : List (String × β)} {key : String}
    (h : get? top key = none) : get? (union under top) key = get? under key := by
  have hover : (top.filter fun e => e.1 == key) = [] := by
    refine List.filter_eq_nil_iff.mpr fun e he => ?_
    simpa using fun heq : e.1 = key => get?_eq_none.mp h (heq ▸ List.mem_map_of_mem he)
  rw [get?_union_last, hover]
  rfl

/-- Writing a key that is not there puts it behind the others. -/
theorem put_new {entries : List (String × β)} {key : String} (v : β)
    (h : key ∉ entries.map Prod.fst) : put entries key v = entries ++ [(key, v)] := by
  induction entries with
  | nil => rfl
  | cons e rest ih =>
      rw [List.map_cons, List.mem_cons, not_or] at h
      unfold put
      rw [if_neg (by simpa using Ne.symm h.1), ih h.2]
      rfl

theorem get?_map {γ : Type} (f : β → γ) (entries : List (String × β)) (key : String) :
    get? (entries.map fun e => (e.1, f e.2)) key = (get? entries key).map f := by
  induction entries with
  | nil => rfl
  | cons e rest ih =>
      rw [List.map_cons, get?_cons, get?_cons, ih]
      by_cases h : e.1 = key <;> simp [h]

/-- The first entry of a key is found among the entries that are kept, if it is one of them. -/
theorem get?_filter_of_kept {entries : List (String × β)} {p : String × β → Bool} {key : String}
    {v : β} (h : get? entries key = some v) (hp : p (key, v) = true) :
    get? (entries.filter p) key = some v := by
  induction entries with
  | nil => cases h
  | cons e rest ih =>
      rw [get?_cons] at h
      by_cases hk : e.1 = key
      · rw [if_pos hk] at h
        obtain rfl := Option.some.inj h
        subst hk
        rw [List.filter_cons_of_pos hp, get?_cons, if_pos rfl]
      · rw [if_neg hk] at h
        rw [List.filter_cons]
        split
        · rw [get?_cons, if_neg hk, ih h]
        · exact ih h

/-! ### Distinct keys -/

theorem map_fst_put (entries : List (String × β)) (key : String) (v : β) :
    (put entries key v).map Prod.fst =
      if key ∈ entries.map Prod.fst then entries.map Prod.fst
      else entries.map Prod.fst ++ [key] := by
  induction entries with
  | nil => simp [put]
  | cons e rest ih =>
      unfold put
      by_cases h : e.1 = key
      · simp [h]
      · rw [if_neg (by simpa using h), List.map_cons, ih]
        by_cases hmem : key ∈ rest.map Prod.fst
        · simp [hmem]
        · simp [hmem, Ne.symm h]

/-- Writing a key keeps the keys distinct. -/
theorem nodup_put {entries : List (String × β)} (hd : (entries.map Prod.fst).Nodup)
    (key : String) (v : β) : ((put entries key v).map Prod.fst).Nodup := by
  rw [map_fst_put]
  split
  · exact hd
  · rename_i h
    refine List.nodup_append.mpr ⟨hd, by simp, fun x hx y hy heq => h ?_⟩
    rwa [← List.mem_singleton.mp hy, ← heq]

/-- Writing entries over others keeps the keys distinct. -/
theorem nodup_union {under : List (String × β)} (hd : (under.map Prod.fst).Nodup)
    (top : List (String × β)) : ((union under top).map Prod.fst).Nodup := by
  unfold union
  induction top generalizing under with
  | nil => exact hd
  | cons e rest ih => exact ih (nodup_put hd e.1 e.2)

/-- Among distinct keys, every entry is found. -/
theorem get?_of_mem {entries : List (String × β)} (hd : (entries.map Prod.fst).Nodup)
    {e : String × β} (h : e ∈ entries) : get? entries e.1 = some e.2 := by
  induction entries with
  | nil => simp at h
  | cons d rest ih =>
      rw [List.map_cons, List.nodup_cons] at hd
      rw [get?_cons]
      rcases List.mem_cons.mp h with rfl | h
      · rw [if_pos rfl]
      · have hne : d.1 ≠ e.1 := fun heq => hd.1 (heq ▸ List.mem_map_of_mem h)
        rw [if_neg hne, ih hd.2 h]

/-- Among distinct keys, leaving entries out does not bring others to light. -/
theorem get?_filter {entries : List (String × β)} (hd : (entries.map Prod.fst).Nodup)
    (p : String × β → Bool) (key : String) :
    get? (entries.filter p) key = (get? entries key).filter fun v => p (key, v) := by
  induction entries with
  | nil => rfl
  | cons e rest ih =>
      rw [List.map_cons, List.nodup_cons] at hd
      rw [get?_cons, List.filter_cons]
      by_cases hk : e.1 = key
      · have hnone : get? rest key = none := get?_eq_none.mpr (hk ▸ hd.1)
        have he : e = (key, e.2) := by rw [← hk]
        rw [if_pos hk]
        by_cases hp : p e = true
        · rw [if_pos hp, get?_cons, if_pos hk, Option.filter_some, ← he, if_pos hp]
        · rw [if_neg hp, ih hd.2, hnone, Option.filter_some, ← he, if_neg hp]
          rfl
      · rw [if_neg hk]
        by_cases hp : p e = true
        · rw [if_pos hp, get?_cons, if_neg hk, ih hd.2]
        · rw [if_neg hp, ih hd.2]

/-- Where no key is written twice, the order of the entries does not matter to finding one. -/
theorem get?_perm {es fs : List (String × β)} (h : es.Perm fs) (hd : (fs.map Prod.fst).Nodup)
    (key : String) : get? es key = get? fs key := by
  induction h with
  | nil => rfl
  | cons e _ ih =>
      rw [List.map_cons, List.nodup_cons] at hd
      rw [get?_cons, get?_cons, ih hd.2]
  | swap e d rest =>
      have hne : d.1 ≠ e.1 := by
        intro heq
        simp [heq] at hd
      rw [get?_cons, get?_cons, get?_cons, get?_cons]
      by_cases he : e.1 = key
      · rw [if_pos he, if_neg (he ▸ hne), if_pos he]
      · rw [if_neg he, if_neg he]
  | trans _ hright ihleft ihright =>
      rw [ihleft ((hright.map Prod.fst).nodup_iff.mpr hd), ihright hd]

/-- Entries that are written over others are found first. -/
theorem get?_union_or {top : List (String × β)} (hd : (top.map Prod.fst).Nodup)
    (under : List (String × β)) (key : String) :
    get? (union under top) key = (get? top key).or (get? under key) := by
  unfold union
  induction top generalizing under with
  | nil => rfl
  | cons e rest ih =>
      rw [List.map_cons, List.nodup_cons] at hd
      rw [List.foldl_cons, ih hd.2, get?_put, get?_cons]
      by_cases hk : e.1 = key
      · rw [if_pos hk, if_pos hk, get?_eq_none.mpr (hk ▸ hd.1), Option.none_or, Option.some_or]
      · rw [if_neg hk, if_neg hk]

/-! ### Writing twice -/

theorem put_put (entries : List (String × β)) (key : String) (v w : β) :
    put (put entries key v) key w = put entries key w := by
  induction entries with
  | nil => simp [put]
  | cons e rest ih =>
      by_cases h : e.1 = key
      · simp [put, h]
      · simp [put, h, ih]

/-- Writing a key that is there may as well be done before another one is written. -/
theorem put_comm {entries : List (String × β)} {key name : String}
    (hmem : key ∈ entries.map Prod.fst) (hne : name ≠ key) (v w : β) :
    put (put entries name w) key v = put (put entries key v) name w := by
  induction entries with
  | nil => simp at hmem
  | cons e rest ih =>
      by_cases hkey : e.1 = key
      · have hname : e.1 ≠ name := fun h => hne (h.symm.trans hkey)
        simp [put, hkey, Ne.symm hne]
      · have hrest : key ∈ rest.map Prod.fst := by
          rw [List.map_cons, List.mem_cons] at hmem
          exact hmem.resolve_left (Ne.symm hkey)
        by_cases hname : e.1 = name
        · simp [put, hname, hne]
        · simp [put, hkey, hname, ih hrest]

theorem mem_fst_put_self (entries : List (String × β)) (key : String) (v : β) :
    key ∈ (put entries key v).map Prod.fst := by
  rw [map_fst_put]
  split
  · assumption
  · simp

theorem put_union {under : List (String × β)} {key : String} (v : β) {top : List (String × β)}
    (hmem : key ∈ under.map Prod.fst) (hnot : key ∉ top.map Prod.fst) :
    put (union under top) key v = union (put under key v) top := by
  unfold union
  induction top generalizing under with
  | nil => rfl
  | cons e rest ih =>
      rw [List.map_cons, List.mem_cons, not_or] at hnot
      have hkept : key ∈ (put under e.1 e.2).map Prod.fst := by
        rw [map_fst_put]
        split
        · exact hmem
        · exact List.mem_append_left _ hmem
      rw [List.foldl_cons, List.foldl_cons, ih hkept hnot.2, put_comm hmem (Ne.symm hnot.1)]

/-- Writing one more key over entries is writing it over what they are written over. -/
theorem union_put {top : List (String × β)} (hd : (top.map Prod.fst).Nodup)
    (under : List (String × β)) (key : String) (v : β) :
    union under (put top key v) = put (union under top) key v := by
  induction top generalizing under with
  | nil => rfl
  | cons e rest ih =>
      rw [List.map_cons, List.nodup_cons] at hd
      by_cases h : e.1 = key
      · have hput : put (e :: rest) key v = (key, v) :: rest := by simp [put, h]
        have hpresent := mem_fst_put_self under e.1 e.2
        rw [h] at hd hpresent
        rw [hput]
        show union (put under key v) rest = put (union (put under e.1 e.2) rest) key v
        rw [put_union v (h ▸ hpresent) hd.1, h, put_put]
      · have hput : put (e :: rest) key v = e :: put rest key v := by simp [put, h]
        rw [hput]
        exact ih hd.2 (put under e.1 e.2)

/-- **Writing entries over others one layer after another is writing them all at once**, and the
order of the keys is the same too. -/
theorem union_assoc {middle : List (String × β)} (hd : (middle.map Prod.fst).Nodup)
    (under top : List (String × β)) :
    union (union under middle) top = union under (union middle top) := by
  induction top generalizing middle with
  | nil => rfl
  | cons e rest ih =>
      show union (put (union under middle) e.1 e.2) rest =
        union under (union (put middle e.1 e.2) rest)
      rw [← union_put hd, ih (nodup_put hd e.1 e.2)]

/-- Entries with distinct keys are written over others that have none of them as they are. -/
theorem union_new {under top : List (String × β)}
    (hd : ((under ++ top).map Prod.fst).Nodup) : union under top = under ++ top := by
  induction top generalizing under with
  | nil => rw [List.append_nil]; rfl
  | cons e rest ih =>
      have hnew : e.1 ∉ under.map Prod.fst := by
        rw [List.map_append, List.nodup_append] at hd
        exact fun hmem => hd.2.2 e.1 hmem e.1 (by simp) rfl
      show union (put under e.1 e.2) rest = _
      rw [put_new e.2 hnew, ih (by simpa using hd), List.append_assoc]
      rfl

end Entries

namespace Value

variable {α β γ : Type}

/-! ### Replacing the leaves of a tree -/

mutual

theorem bind_bind (f : α → Value β) (g : β → Value γ) :
    ∀ v : Value α, (v.bind f).bind g = v.bind fun a => (f a).bind g
  | .null => rfl
  | .bool _ => rfl
  | .int _ => rfl
  | .float _ => rfl
  | .str _ => rfl
  | .bytes _ => rfl
  | .list items => by simp only [bind, bindItems_bindItems f g items]
  | .tuple items => by simp only [bind, bindItems_bindItems f g items]
  | .obj entries => by simp only [bind, bindEntries_bindEntries f g entries]
  | .leaf _ => rfl

theorem bindItems_bindItems (f : α → Value β) (g : β → Value γ) :
    ∀ items : List (Value α),
      bindItems g (bindItems f items) = bindItems (fun a => (f a).bind g) items
  | [] => rfl
  | v :: rest => by simp only [bindItems, bind_bind f g v, bindItems_bindItems f g rest]

theorem bindEntries_bindEntries (f : α → Value β) (g : β → Value γ) :
    ∀ entries : List (String × Value α),
      bindEntries g (bindEntries f entries) = bindEntries (fun a => (f a).bind g) entries
  | [] => rfl
  | (k, v) :: rest => by
      simp only [bindEntries, bind_bind f g v, bindEntries_bindEntries f g rest]

end

mutual

theorem bind_leaf : ∀ v : Value α, v.bind .leaf = v
  | .null => rfl
  | .bool _ => rfl
  | .int _ => rfl
  | .float _ => rfl
  | .str _ => rfl
  | .bytes _ => rfl
  | .list items => by rw [bind, bindItems_leaf items]
  | .tuple items => by rw [bind, bindItems_leaf items]
  | .obj entries => by rw [bind, bindEntries_leaf entries]
  | .leaf _ => rfl

theorem bindItems_leaf : ∀ items : List (Value α), bindItems .leaf items = items
  | [] => rfl
  | v :: rest => by rw [bindItems, bind_leaf v, bindItems_leaf rest]

theorem bindEntries_leaf : ∀ entries : List (String × Value α), bindEntries .leaf entries = entries
  | [] => rfl
  | (k, v) :: rest => by rw [bindEntries, bind_leaf v, bindEntries_leaf rest]

end

theorem bindEntries_eq_map (f : α → Value β) (entries : List (String × Value α)) :
    bindEntries f entries = entries.map fun e => (e.1, e.2.bind f) := by
  induction entries with
  | nil => rfl
  | cons e rest ih => rw [bindEntries, ih, List.map_cons]

end Value

namespace Given

/-- **Data that is wrapped for a caller is still the same data.** -/
theorem document_ofDocument (v : Document) : document (ofDocument v) = v := by
  unfold document ofDocument Value.map
  rw [Value.bind_bind]
  exact Value.bind_leaf v

theorem documents_eq_bindEntries (entries : List (String × Given)) :
    documents entries = Value.bindEntries (fun a => .leaf a.toOpaque) entries := by
  rw [Value.bindEntries_eq_map]
  rfl

theorem documents_wrapped (entries : Properties) :
    documents (Value.bindEntries (fun o => .leaf (.foreign o)) entries) = entries := by
  rw [documents_eq_bindEntries, Value.bindEntries_bindEntries]
  exact Value.bindEntries_leaf entries

end Given

end Parley
