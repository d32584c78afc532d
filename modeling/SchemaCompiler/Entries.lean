/-!
# Ordered entries

An object of a document, the fields of a composed record and the record map itself are all the same
thing: a list of named values in which each name stands once, in the order the names first
appeared.  `Entries.insert` is the one operation that builds such a list.  A name that is already
there keeps its place and takes the new value, so `Entries.ofList` keeps of a list with repeated
names the first position and the last value of each.

The main statement is `Entries.keys_nodup_ofList`: names never repeat.
-/

namespace SchemaCompiler

/-- Named values in order. -/
abbrev Entries (α : Type) := List (String × α)

namespace Entries

variable {α : Type}

/-- The names, in order. -/
def keys (es : Entries α) : List String :=
  es.map Prod.fst

/-- The value of the first entry called `key`. -/
def get? (es : Entries α) (key : String) : Option α :=
  (es.find? fun e => e.1 == key).map Prod.snd

/-- Gives `key` the value `v`: in place if the name is there, at the end otherwise. -/
def insert (es : Entries α) (key : String) (v : α) : Entries α :=
  if key ∈ es.keys then es.map fun e => if e.1 = key then (key, v) else e
  else es ++ [(key, v)]

/-- Inserts the pairs one after the other: each name keeps its first position and its last value. -/
def ofList (pairs : List (String × α)) : Entries α :=
  pairs.foldl (fun es e => es.insert e.1 e.2) []

/-! ### Names -/

@[simp] theorem keys_nil : keys ([] : Entries α) = [] := rfl

@[simp] theorem keys_cons (e : String × α) (es : Entries α) :
    keys (e :: es) = e.1 :: keys es := rfl

@[simp] theorem keys_append (es fs : Entries α) : keys (es ++ fs) = keys es ++ keys fs := by
  simp [keys]

/-- Inserting leaves the names as they are, or adds the new one at the end. -/
theorem keys_insert (es : Entries α) (key : String) (v : α) :
    (es.insert key v).keys = if key ∈ es.keys then es.keys else es.keys ++ [key] := by
  unfold insert
  split
  · simp only [keys, List.map_map]
    apply List.map_congr_left
    intro e _
    by_cases he : e.1 = key <;> simp [he]
  · simp

theorem keys_nodup_insert {es : Entries α} (h : es.keys.Nodup) (key : String) (v : α) :
    (es.insert key v).keys.Nodup := by
  rw [keys_insert]
  split
  · exact h
  · next hk =>
    refine List.nodup_append.2 ⟨h, by simp, ?_⟩
    intro a ha b hb hab
    simp only [List.mem_singleton] at hb
    exact hk (hb ▸ hab ▸ ha)

/-- **No name stands twice** in entries built from a list of pairs. -/
theorem keys_nodup_ofList (pairs : List (String × α)) : (ofList pairs).keys.Nodup := by
  suffices ∀ es : Entries α, es.keys.Nodup →
      (pairs.foldl (fun es e => es.insert e.1 e.2) es).keys.Nodup from this [] (by simp)
  induction pairs with
  | nil => exact fun _ h => h
  | cons e rest ih => exact fun es h => ih _ (keys_nodup_insert h e.1 e.2)

/-! ### Values -/

theorem mem_of_get?_eq_some {es : Entries α} {key : String} {v : α}
    (h : es.get? key = some v) : (key, v) ∈ es := by
  obtain ⟨e, he, hv⟩ := Option.map_eq_some_iff.1 h
  have hk : e.1 = key := by simpa using List.find?_some he
  have : e = (key, v) := Prod.ext hk hv
  exact this ▸ List.mem_of_find?_eq_some he

theorem get?_eq_none_iff {es : Entries α} {key : String} :
    es.get? key = none ↔ key ∉ es.keys := by
  simp only [get?, Option.map_eq_none_iff, List.find?_eq_none, beq_iff_eq, keys, List.mem_map]
  constructor
  · rintro h ⟨e, he, hk⟩
    exact h e he hk
  · intro h e he hk
    exact h ⟨e, he, hk⟩

/-- With distinct names, the value of a name is the one it stands with. -/
theorem get?_eq_some_iff {es : Entries α} (h : es.keys.Nodup) {key : String} {v : α} :
    es.get? key = some v ↔ (key, v) ∈ es := by
  refine ⟨mem_of_get?_eq_some, fun hm => ?_⟩
  induction es with
  | nil => cases hm
  | cons e rest ih =>
    rw [keys_cons, List.nodup_cons] at h
    rcases List.mem_cons.1 hm with rfl | hm
    · simp [get?]
    · have hne : e.1 ≠ key := by
        rintro rfl
        exact h.1 (List.mem_map.2 ⟨_, hm, rfl⟩)
      have := ih h.2 hm
      simpa [get?, hne] using this

theorem get?_cons (e : String × α) (es : Entries α) (name : String) :
    get? (e :: es) name = if e.1 = name then some e.2 else get? es name := by
  by_cases h : e.1 = name <;> simp [get?, h]

theorem get?_append (es fs : Entries α) (name : String) :
    get? (es ++ fs) name = (get? es name).or (get? fs name) := by
  simp only [get?, List.find?_append, Option.map_or]

/-- Replacing the value of a name changes that value alone. -/
theorem get?_map_replace (es : Entries α) (key : String) (v : α) (name : String) :
    get? (es.map fun e => if e.1 = key then (key, v) else e) name =
      (es.get? name).map fun old => if name = key then v else old := by
  induction es with
  | nil => rfl
  | cons e rest ih =>
    rw [List.map_cons, get?_cons, get?_cons, ih]
    by_cases hn : e.1 = name
    · subst hn
      by_cases hk : e.1 = key <;> simp [hk]
    · by_cases hk : e.1 = key
      · have hne : ¬ key = name := fun h => hn (hk.trans h)
        simp [hk, hne]
      · simp [hk, hn]

/-- What is inserted is found, and the other names have the values they had. -/
theorem get?_insert (es : Entries α) (key : String) (v : α) (name : String) :
    (es.insert key v).get? name = if name = key then some v else es.get? name := by
  unfold insert
  split
  · next hk =>
    rw [get?_map_replace]
    by_cases hn : name = key
    · cases hget : es.get? key with
      | none => exact absurd hk (get?_eq_none_iff.1 hget)
      | some old => simp [hn, hget]
    · simp [hn]
  · next hk =>
    rw [get?_append, get?_cons]
    by_cases hn : name = key
    · simp [hn, get?_eq_none_iff.2 hk]
    · have hne : ¬ key = name := fun h => hn h.symm
      simp [hn, hne, get?]

theorem mem_insert {es : Entries α} {key : String} {v : α} {e : String × α}
    (h : e ∈ es.insert key v) : e ∈ es ∨ e = (key, v) := by
  unfold insert at h
  split at h
  · obtain ⟨e', he', rfl⟩ := List.mem_map.1 h
    by_cases hk : e'.1 = key
    · simp [hk]
    · simp [hk, he']
  · simpa using h

/-- Whatever stands in entries built from a list of pairs is one of the pairs. -/
theorem mem_of_mem_ofList {pairs : List (String × α)} {e : String × α} (h : e ∈ ofList pairs) :
    e ∈ pairs := by
  suffices ∀ es : Entries α, e ∈ pairs.foldl (fun es p => es.insert p.1 p.2) es →
      e ∈ es ∨ e ∈ pairs from (this [] h).resolve_left (by simp)
  clear h
  induction pairs with
  | nil => exact fun es h => .inl h
  | cons p rest ih =>
    intro es h
    rcases ih _ h with h | h
    · rcases mem_insert h with h | h
      · exact .inl h
      · exact .inr (h ▸ List.mem_cons_self)
    · exact .inr (List.mem_cons_of_mem _ h)

end Entries

end SchemaCompiler
