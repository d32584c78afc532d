import SchemaCompiler.Error

/-!
# The record map

A `Schema` holds the definition of each record under its name, in the order of declaration.  Names
are distinct, which is part of the type.  Documents are merged record by record: the first name that
is already taken stops the merge, and the records before it stay.
-/

namespace SchemaCompiler

/-- Record definitions by name, in order of declaration. -/
structure Schema where
  records : Entries Json
  keys_nodup : records.keys.Nodup

namespace Schema

/-- The schema without records. -/
def empty : Schema :=
  ⟨[], by simp⟩

/-- The schema of a list of definitions: a repeated name keeps its first place and takes its last
definition. -/
def ofList (pairs : List (String × Json)) : Schema :=
  ⟨Entries.ofList pairs, Entries.keys_nodup_ofList pairs⟩

/-- The record names, in order of declaration. -/
def names (s : Schema) : List String :=
  s.records.keys

/-- The number of records. -/
def size (s : Schema) : Nat :=
  s.records.length

/-- The definition of a record. -/
def get? (s : Schema) (name : String) : Option Json :=
  s.records.get? name

/-- Whether there is a record of that name. -/
def contains (s : Schema) (name : String) : Bool :=
  name ∈ s.names

/-- The definition of a record that must be there. -/
def resolve (s : Schema) (name : String) : Except Error Json :=
  match s.get? name with
  | some definition => .ok definition
  | none => .error (.unresolvedReference name)

/-- Adds a record whose name is free at the end. -/
def push (s : Schema) (name : String) (definition : Json) (h : name ∉ s.names) : Schema where
  records := s.records ++ [(name, definition)]
  keys_nodup := by
    rw [Entries.keys_append]
    refine List.nodup_append.2 ⟨s.keys_nodup, by simp, ?_⟩
    intro a ha b hb hab
    simp only [Entries.keys_cons, Entries.keys_nil, List.mem_singleton] at hb
    exact h (hb ▸ hab ▸ ha)

/-- Adds records one by one until a name is taken.  The records before it stay. -/
def absorb (s : Schema) : Entries Json → Schema × Except Error Unit
  | [] => (s, .ok ())
  | (name, definition) :: rest =>
    if h : name ∈ s.names then (s, .error (.duplicateRecord name))
    else (s.push name definition h).absorb rest

/-- Adds the records of another schema in their order. -/
def merge (s other : Schema) : Schema × Except Error Unit :=
  s.absorb other.records

/-- Equality of schemas, the order of records and of object entries apart. -/
def sameRecords (s t : Schema) : Bool :=
  Json.sameValue (.obj s.records) (.obj t.records)

/-! ### Look-ups -/

section

variable {s : Schema} {name : String}

theorem get?_eq_some_iff {definition : Json} :
    s.get? name = some definition ↔ (name, definition) ∈ s.records :=
  Entries.get?_eq_some_iff s.keys_nodup

theorem get?_eq_none_iff : s.get? name = none ↔ name ∉ s.names :=
  Entries.get?_eq_none_iff

theorem exists_get?_of_mem (h : name ∈ s.names) : ∃ definition, s.get? name = some definition := by
  cases hget : s.get? name with
  | none => exact absurd h (get?_eq_none_iff.1 hget)
  | some definition => exact ⟨definition, rfl⟩

theorem resolve_eq_ok_iff {definition : Json} :
    s.resolve name = .ok definition ↔ s.get? name = some definition := by
  unfold resolve
  cases s.get? name <;> simp

/-- A record that must be there is missed under its own name. -/
theorem resolve_eq_error_iff {e : Error} :
    s.resolve name = .error e ↔ name ∉ s.names ∧ e = .unresolvedReference name := by
  rw [← get?_eq_none_iff]
  unfold resolve
  cases s.get? name <;> simp [eq_comm]

end

end Schema

end SchemaCompiler
