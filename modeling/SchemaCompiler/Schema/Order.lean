import SchemaCompiler.Schema.Basic
import SchemaCompiler.Schema.Reference

/-!
# The order of emission

Referenced records come first, each after the records that it refers to itself; the records that
nothing refers to follow in the order of their declaration.

`Schema.visit` completes one record: its references are visited first, then its name is appended to
the names that are done.  The trail holds the records that have been entered and not completed.  To
enter a record of the trail again would be a circle.  Each visit that enters a record makes the
trail longer by a record of the schema, which bounds the depth.
-/

namespace SchemaCompiler.Schema

/-- The records of the schema that are not on the trail. -/
def offTrail (s : Schema) (trail : List String) : List String :=
  s.names.filter fun name => name ∉ trail

theorem mem_names_of_get? {s : Schema} {name : String} {definition : Json}
    (h : s.get? name = some definition) : name ∈ s.names :=
  List.mem_map_of_mem (f := Prod.fst) (Entries.mem_of_get?_eq_some h)

/-- Entering a record of the schema leaves fewer records off the trail. -/
theorem length_offTrail_lt {s : Schema} {trail : List String} {name : String}
    (hs : name ∈ s.names) (ht : name ∉ trail) :
    (s.offTrail (trail ++ [name])).length < (s.offTrail trail).length := by
  have hfilter : s.offTrail (trail ++ [name]) =
      (s.offTrail trail).filter fun other => other ≠ name := by
    simp only [offTrail, List.filter_filter]
    apply List.filter_congr
    intro other _
    by_cases h : other = name <;> simp [h]
  rw [hfilter]
  refine List.length_filter_lt_length_iff_exists.2 ⟨name, ?_, by simp⟩
  exact List.mem_filter.2 ⟨hs, by simpa using ht⟩

/-- Completes a record: appends to `done` what it refers to, directly or not, and then its name,
unless they are there already. -/
def visit (s : Schema) (trail done : List String) (name : String) :
    Except Error (List String) :=
  if name ∈ done then .ok done
  else if _ht : name ∈ trail then
    .error (.referenceCycle (trail.dropWhile (fun other => other ≠ name) ++ [name]))
  else
    match _hs : s.get? name with
    | none => .error (.unresolvedReference name)
    | some definition => do
      let done ← definition.references.foldlM
        (fun done target => visit s (trail ++ [name]) done target) done
      return done ++ [name]
termination_by (s.offTrail trail).length
decreasing_by exact length_offTrail_lt (mem_names_of_get? _hs) _ht

/-- Completes every record that a value refers to. -/
def walk (s : Schema) (trail done : List String) (j : Json) : Except Error (List String) :=
  j.references.foldlM (fun done target => s.visit trail done target) done

/-- The records that some record refers to, directly or not, each after those it refers to itself.
-/
def referenced (s : Schema) : Except Error (List String) :=
  s.records.foldlM (fun done record => s.walk [] done record.2) []

/-- The order of emission: referenced records first, then the others as declared. -/
def emissionOrder (s : Schema) : Except Error (List String) := do
  let first ← s.referenced
  return first ++ s.names.filter fun name => name ∉ first

end SchemaCompiler.Schema
