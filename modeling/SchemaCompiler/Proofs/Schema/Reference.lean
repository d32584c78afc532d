import SchemaCompiler.Schema.Order

/-!
# Where references stand

`Json.HasReference r j` says that the string `r` stands under the key `$ref` in some object of `j`,
however deep, and says so without collecting anything.  The main statement is
`Json.mem_references_iff`: the walk through a value meets the targets of exactly these strings.

On records this gives the relation `Schema.RefersTo`: the definition of one record has a reference
to another.  What other parts of the compiler read as a reference (`Json.reference?` on a field or
on a member of a composition) is met by the walk as well.
-/

namespace SchemaCompiler

namespace Json

/-- `r` stands under the key `$ref` in some object of a value, at any depth. -/
inductive HasReference (r : String) : Json → Prop
  /-- In the object itself. -/
  | here {entries : List (String × Json)} (h : ("$ref", str r) ∈ entries) :
      HasReference r (obj entries)
  /-- Somewhere in the value of an entry, whatever its key. -/
  | entry {entries : List (String × Json)} {key : String} {j : Json} (hj : (key, j) ∈ entries)
      (h : HasReference r j) : HasReference r (obj entries)
  /-- Somewhere in an item. -/
  | item {items : List Json} {j : Json} (hj : j ∈ items) (h : HasReference r j) :
      HasReference r (arr items)

/-! ### The walk through a value -/

theorem mem_itemReferences {items : List Json} {target : String} :
    target ∈ itemReferences items ↔ ∃ j ∈ items, target ∈ j.references := by
  induction items with
  | nil => simp [itemReferences]
  | cons j rest ih => simp [itemReferences, ih]

theorem mem_entryReferences {entries : Entries Json} {target : String} :
    target ∈ entryReferences entries ↔
      ∃ e ∈ entries, target ∈ entryReference e.1 e.2 ∨ target ∈ e.2.references := by
  induction entries with
  | nil => simp [entryReferences]
  | cons e rest ih => simp [entryReferences, ih, or_assoc]

theorem mem_entryReference {key target : String} {j : Json} :
    target ∈ entryReference key j ↔
      key = "$ref" ∧ ∃ r, j = str r ∧ Reference.target r = target := by
  cases j with
  | str r =>
    by_cases hk : key = "$ref"
    · simp [entryReference, hk, eq_comm]
    · simp [entryReference, hk]
  | _ => simp [entryReference]

/-- Every target that the walk meets is that of a string under `$ref`. -/
theorem exists_hasReference (j : Json) {target : String} (h : target ∈ j.references) :
    ∃ r, HasReference r j ∧ Reference.target r = target := by
  match j with
  | arr items =>
    rw [references, mem_itemReferences] at h
    obtain ⟨item, hitem, h⟩ := h
    obtain ⟨r, hr, ht⟩ := exists_hasReference item h
    exact ⟨r, .item hitem hr, ht⟩
  | obj entries =>
    rw [references, mem_entryReferences] at h
    obtain ⟨⟨key, value⟩, hentry, h⟩ := h
    -- Either the entry is the reference, or the reference is further down.
    rcases h with h | h
    · obtain ⟨rfl, r, rfl, ht⟩ := mem_entryReference.1 h
      exact ⟨r, .here hentry, ht⟩
    · obtain ⟨r, hr, ht⟩ := exists_hasReference value h
      exact ⟨r, .entry hentry hr, ht⟩
  | null | bool _ | num _ | str _ => simp [references] at h
termination_by sizeOf j
decreasing_by
  · exact sizeOf_lt_arr hitem
  · exact sizeOf_lt_obj hentry

/-- **The walk meets exactly the targets of the strings under `$ref`**, in whatever objects and at
whatever depth they stand. -/
theorem mem_references_iff {j : Json} {target : String} :
    target ∈ j.references ↔ ∃ r, HasReference r j ∧ Reference.target r = target := by
  refine ⟨exists_hasReference j, ?_⟩
  rintro ⟨r, hr, rfl⟩
  induction hr with
  | here h =>
    rw [references, mem_entryReferences]
    exact ⟨_, h, .inl (mem_entryReference.2 ⟨rfl, r, rfl, rfl⟩)⟩
  | entry hj _ ih =>
    rw [references, mem_entryReferences]
    exact ⟨_, hj, .inr ih⟩
  | item hj _ ih =>
    rw [references, mem_itemReferences]
    exact ⟨_, hj, ih⟩

/-! ### Other readers of references -/

/-- A reference in the value under a key is a reference in the object. -/
theorem mem_references_of_get? {j v : Json} {key target : String} (hv : j.get? key = some v)
    (h : target ∈ v.references) : target ∈ j.references := by
  cases j with
  | obj entries =>
    rw [references, mem_entryReferences]
    exact ⟨_, Entries.mem_of_get?_eq_some hv, .inr h⟩
  | _ => simp [get?] at hv

/-- A value that is read as a reference is one to the walk. -/
theorem mem_references_of_reference? {j : Json} {target : String}
    (h : j.reference? = some target) : target ∈ j.references := by
  obtain ⟨r, hr, rfl⟩ := Option.map_eq_some_iff.1 h
  obtain ⟨v, hv, hstr⟩ := Option.bind_eq_some_iff.1 hr
  cases j with
  | obj entries =>
    cases v with
    | str r' =>
      obtain rfl := Option.some.inj hstr
      exact mem_references_iff.2 ⟨_, .here (Entries.mem_of_get?_eq_some hv), rfl⟩
    | _ => simp [asString?] at hstr
  | _ => simp [get?] at hv

/-- A reference in an item of the array under a key is a reference in the object. -/
theorem mem_references_of_getArray? {j item : Json} {key target : String} {items : List Json}
    (hitems : j.getArray? key = some items) (hitem : item ∈ items)
    (h : target ∈ item.references) : target ∈ j.references := by
  obtain ⟨v, hv, harr⟩ := Option.bind_eq_some_iff.1 hitems
  cases v with
  | arr items' =>
    obtain rfl := Option.some.inj harr
    refine mem_references_of_get? hv ?_
    rw [references, mem_itemReferences]
    exact ⟨item, hitem, h⟩
  | _ => simp [asArray?] at harr

end Json

namespace Schema

variable {s : Schema} {a b : String}

/-! ### References between records -/

/-- The definition of the record `a` has a reference to `b`, wherever it stands. -/
def RefersTo (s : Schema) (a b : String) : Prop :=
  ∃ definition, s.get? a = some definition ∧
    ∃ r, Json.HasReference r definition ∧ Reference.target r = b

theorem refersTo_iff :
    s.RefersTo a b ↔ ∃ definition, s.get? a = some definition ∧ b ∈ definition.references := by
  simp only [RefersTo, Json.mem_references_iff]

/-- Only records refer to anything. -/
theorem RefersTo.mem_names (h : s.RefersTo a b) : a ∈ s.names := by
  obtain ⟨definition, hget, _⟩ := h
  exact mem_names_of_get? hget

end Schema

end SchemaCompiler
