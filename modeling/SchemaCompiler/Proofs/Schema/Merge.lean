import Mathlib.Data.List.Nodup
import Mathlib.Data.List.TakeWhile
import SchemaCompiler.Proofs.Outcome
import SchemaCompiler.Schema.Basic

/-!
# Merging

A merge takes records of the other schema up to one whose name is taken (`absorb_cases`).  The names
of a schema are distinct, so that the name was taken before the merge and not by it
(`merge_split`).  Therefore a merge fails with the first name that both schemas have
(`merge_eq_error_iff`), and it succeeds with the one schema that has the records of both, one list
after the other (`merge_eq_ok_iff`).

Merges that follow each other, the failing ones included, go on from what the ones before have left.

* `merge_sequences_append`: whatever calls came before, a merge appends the records of the other
  schema up to the first name that is taken, and documents can be merged exactly if no two of them
  have a name in common.
-/

namespace SchemaCompiler.Schema

variable {s s' other : Schema}

theorem eq_of_records (h : s.records = s'.records) : s = s' := by
  cases s
  cases s'
  congr

/-- Some records from the start are taken: all of them, or those before a name that is there. -/
theorem absorb_cases (s : Schema) (es : Entries Json) :
    ∃ taken, (s.absorb es).1.records = s.records ++ taken ∧
      ((es = taken ∧ (s.absorb es).2 = .ok ()) ∨
        ∃ name definition rest, es = taken ++ (name, definition) :: rest ∧
          name ∈ s.names ++ taken.keys ∧ (s.absorb es).2 = .error (.duplicateRecord name)) := by
  induction es generalizing s with
  | nil => exact ⟨[], by simp [absorb], .inl ⟨rfl, rfl⟩⟩
  | cons e rest ih =>
    obtain ⟨name, definition⟩ := e
    by_cases h : name ∈ s.names
    · rw [absorb, dif_pos h]
      exact ⟨[], by simp, .inr ⟨name, definition, rest, rfl, by simpa using h, rfl⟩⟩
    · -- The record is taken, and the names that stop the rest now include its own.
      rw [absorb, dif_neg h]
      obtain ⟨taken, hrecords, hcases⟩ := ih (s.push name definition h)
      refine ⟨(name, definition) :: taken, by simpa [push] using hrecords, ?_⟩
      rcases hcases with ⟨rfl, hok⟩ | ⟨key, definition', rest', rfl, hkey, herror⟩
      · exact .inl ⟨rfl, hok⟩
      · refine .inr ⟨key, definition', rest', rfl, ?_, herror⟩
        simpa [names, push] using hkey

/-- The records that a merge takes have other names than those that were there. -/
theorem not_mem_names_of_mem_taken {taken : Entries Json} {name : String}
    (h : s'.records = s.records ++ taken) (hname : name ∈ taken.keys) : name ∉ s.names := by
  have hnodup := s'.keys_nodup
  rw [h, Entries.keys_append] at hnodup
  exact fun hold => (List.nodup_append.1 hnodup).2.2 name hold name hname rfl

/-- Schemas whose records fit into one have no name in common. -/
theorem find?_names_eq_none (h : s'.records = s.records ++ other.records) :
    other.names.find? (· ∈ s.names) = none := by
  rw [List.find?_eq_none]
  intro name hname
  simpa using not_mem_names_of_mem_taken h hname

/-- The records that a merge takes: all of them, or those before a name that was there. -/
theorem merge_split (s other : Schema) :
    ∃ taken, (s.merge other).1.records = s.records ++ taken ∧
      ((other.records = taken ∧ (s.merge other).2 = .ok ()) ∨
        ∃ name definition rest, other.records = taken ++ (name, definition) :: rest ∧
          name ∈ s.names ∧ (s.merge other).2 = .error (.duplicateRecord name)) := by
  obtain ⟨taken, hrecords, hall | ⟨name, definition, rest, hsplit, hname, herror⟩⟩ :=
    absorb_cases s other.records
  · exact ⟨taken, hrecords, .inl hall⟩
  · refine ⟨taken, hrecords, .inr ⟨name, definition, rest, hsplit, ?_, herror⟩⟩
    -- The name stands once among the others, so it is not among those just taken.
    have hnodup := other.keys_nodup
    rw [hsplit, Entries.keys_append, Entries.keys_cons] at hnodup
    have hfresh : name ∉ taken.keys := fun h =>
      (List.nodup_append.1 hnodup).2.2 name h name List.mem_cons_self rfl
    simpa [hfresh] using hname

/-- A merge takes all records, or those before the first name that is in both schemas. -/
theorem merge_cases (s other : Schema) :
    ((s.merge other).1.records = s.records ++ other.records ∧ (s.merge other).2 = .ok ()) ∨
      ∃ name, other.names.find? (· ∈ s.names) = some name ∧
        (s.merge other).2 = .error (.duplicateRecord name) := by
  obtain ⟨taken, hrecords, ⟨rfl, hok⟩ | ⟨name, definition, rest, hsplit, hname, herror⟩⟩ :=
    merge_split s other
  · exact .inl ⟨hrecords, hok⟩
  · refine .inr ⟨name, ?_, herror⟩
    have hkeys : other.names = taken.keys ++ name :: Entries.keys rest := by
      rw [names, hsplit, Entries.keys_append, Entries.keys_cons]
    refine List.find?_eq_some_iff_append.2 ⟨by simpa using hname, taken.keys, Entries.keys rest,
      hkeys, fun key hkey => ?_⟩
    simpa using not_mem_names_of_mem_taken hrecords hkey

/-- The records after a merge: those that were there, and the others up to a name that is taken. -/
theorem records_merge (s other : Schema) : (s.merge other).1.records =
    s.records ++ other.records.takeWhile fun e => e.1 ∉ s.names := by
  obtain ⟨taken, hrecords, htaken⟩ := merge_split s other
  have hfree : ∀ e ∈ taken, decide (e.1 ∉ s.names) = true := by
    intro e he
    have hkey : e.1 ∈ taken.keys := List.mem_map.2 ⟨e, he, rfl⟩
    simpa using not_mem_names_of_mem_taken hrecords hkey
  rw [hrecords]
  rcases htaken with ⟨rfl, _⟩ | ⟨name, definition, rest, hsplit, hname, _⟩
  · rw [List.takeWhile_eq_self_iff.2 hfree]
  · have hstop : ((name, definition) :: rest).takeWhile (fun e => e.1 ∉ s.names) = [] :=
      List.takeWhile_cons_of_neg (by simpa using hname)
    rw [hsplit, List.takeWhile_append_of_pos hfree, hstop, List.append_nil]

/-- **A merge fails with the first name that is in both schemas.** -/
theorem merge_eq_error_iff {e : Error} : (s.merge other).2 = .error e ↔
    ∃ name, other.names.find? (· ∈ s.names) = some name ∧ e = .duplicateRecord name := by
  rcases merge_cases s other with ⟨hrecords, hok⟩ | ⟨name, hfind, herror⟩
  · simp [hok, find?_names_eq_none hrecords]
  · simp [herror, hfind, eq_comm]

/-- **A merge that succeeds gives the records of both schemas**, and it succeeds if there is a
schema that has them. -/
theorem merge_eq_ok_iff :
    s.merge other = (s', .ok ()) ↔ s'.records = s.records ++ other.records := by
  rcases merge_cases s other with ⟨hrecords, hok⟩ | ⟨name, hfind, herror⟩
  · rw [Prod.ext_iff, ← hrecords]
    exact ⟨fun h => congrArg records h.1.symm, fun h => ⟨(eq_of_records h).symm, hok⟩⟩
  · rw [Prod.ext_iff, herror]
    constructor
    · rintro ⟨_, h⟩
      cases h
    · intro h
      rw [find?_names_eq_none h] at hfind
      cases hfind

theorem merge_fails_iff :
    (∃ e, (s.merge other).2 = .error e) ↔ ∃ name ∈ other.names, name ∈ s.names := by
  simp only [merge_eq_error_iff]
  rw [exists_comm]
  simp only [exists_and_left, exists_eq, and_true]
  rw [← Option.isSome_iff_exists, List.find?_isSome]
  simp only [decide_eq_true_eq]

theorem merge_succeeds_iff : (s.merge other).2 = .ok () ↔
    (s.merge other).1.records = s.records ++ other.records := by
  rw [← merge_eq_ok_iff, Prod.ext_iff]
  exact (and_iff_right rfl).symm

/-! ### Sequences of merges -/

/-- The schema that merges leave one after the other, whether or not they succeed. -/
def mergeEach (s : Schema) (calls : List Schema) : Schema :=
  calls.foldl (fun t call => (t.merge call).1) s

theorem records_isPrefix_merge (s other : Schema) :
    s.records <+: (s.merge other).1.records :=
  ⟨_, (records_merge s other).symm⟩

/-- What was there stays where it was, through any number of merges. -/
theorem records_isPrefix_mergeEach (s : Schema) (calls : List Schema) :
    s.records <+: (s.mergeEach calls).records := by
  induction calls generalizing s with
  | nil => exact List.prefix_rfl
  | cons call rest ih => exact (records_isPrefix_merge s call).trans (ih _)

/-- The schema after a merge that has to succeed. -/
def joined (s other : Schema) : Except Error Schema :=
  match s.merge other with
  | (_, .error e) => .error e
  | (merged, .ok ()) => .ok merged

theorem joined_eq_ok_iff : s.joined other = .ok s' ↔ s'.records = s.records ++ other.records := by
  rw [← merge_eq_ok_iff, joined]
  rcases s.merge other with ⟨merged, e | _⟩ <;> simp

/-- Merges that all have to succeed give the records of all documents. -/
theorem foldlM_joined_eq_ok_iff {documents : List Schema} :
    documents.foldlM joined s = .ok s' ↔
      s'.records = s.records ++ documents.flatMap records := by
  induction documents generalizing s with
  | nil =>
    simp only [List.foldlM_nil, List.flatMap_nil, List.append_nil]
    exact ⟨fun h => congrArg records (Except.ok.inj h).symm,
      fun h => congrArg Except.ok (eq_of_records h).symm⟩
  | cons document rest ih =>
    simp only [List.foldlM_cons, Except.bind_eq_ok_iff, joined_eq_ok_iff, ih, List.flatMap_cons]
    constructor
    · rintro ⟨next, hnext, hrecords⟩
      rw [hrecords, hnext, List.append_assoc]
    · intro hrecords
      rw [← List.append_assoc] at hrecords
      -- The records so far have distinct names, since all records do.
      have hnodup : (s.records ++ document.records).keys.Nodup := by
        have h := s'.keys_nodup
        rw [hrecords, Entries.keys_append] at h
        exact (List.nodup_append.1 h).1
      exact ⟨⟨_, hnodup⟩, rfl, hrecords⟩

/-- Documents fit into one schema if no two of them have a name in common. -/
theorem exists_records_eq_flatMap_iff {documents : List Schema} :
    (∃ s : Schema, s.records = documents.flatMap records) ↔
      documents.Pairwise fun a b => a.names.Disjoint b.names := by
  have hkeys : Entries.keys (documents.flatMap records) = documents.flatMap names :=
    List.map_flatMap
  have hnodup : (documents.flatMap names).Nodup ↔
      documents.Pairwise fun a b => a.names.Disjoint b.names := by
    rw [List.nodup_flatMap]
    exact and_iff_right fun document _ => document.keys_nodup
  rw [← hnodup, ← hkeys]
  exact ⟨fun ⟨s, hs⟩ => hs ▸ s.keys_nodup, fun h => ⟨⟨_, h⟩, rfl⟩⟩

/-- **Merges only append, also those that fail.**  Take any schema and any calls of `merge` on it,
and one call more.  Names stay distinct, and what was there stays as it was.  The call fails exactly
if there is a name in both schemas, with the first such name of the other schema, and in any case
the records of the other schema are appended up to the first such name.  Documents can therefore be
merged exactly if no two of them have a name in common, and this gives all their records. -/
theorem merge_sequences_append (s : Schema) (calls : List Schema) (other : Schema)
    (documents : List Schema) :
    let t := s.mergeEach calls
    ((t.merge other).1.names.Nodup ∧
      s.records <+: t.records ∧ t.records <+: (t.merge other).1.records ∧
      ((∃ e, (t.merge other).2 = .error e) ↔ ∃ name ∈ other.names, name ∈ t.names) ∧
      (∀ e, (t.merge other).2 = .error e ↔ ∃ name,
        other.names.find? (· ∈ t.names) = some name ∧ e = .duplicateRecord name) ∧
      (t.merge other).1.records =
        t.records ++ other.records.takeWhile (fun e => e.1 ∉ t.names) ∧
      ((t.merge other).2 = .ok () ↔ (t.merge other).1.records = t.records ++ other.records)) ∧
    ((∃ merged, documents.foldlM joined empty = .ok merged) ↔
      documents.Pairwise fun a b => a.names.Disjoint b.names) ∧
    ∀ merged, documents.foldlM joined empty = .ok merged ↔
      merged.records = documents.flatMap records := by
  intro t
  have hdocuments : ∀ merged, documents.foldlM joined empty = .ok merged ↔
      merged.records = documents.flatMap records := fun merged => foldlM_joined_eq_ok_iff
  refine ⟨⟨(t.merge other).1.keys_nodup, records_isPrefix_mergeEach s calls,
    records_isPrefix_merge t other, ?_, fun e => merge_eq_error_iff, records_merge t other, ?_⟩, ?_,
    hdocuments⟩
  · exact merge_fails_iff
  · exact merge_succeeds_iff
  · simp only [hdocuments, exists_records_eq_flatMap_iff]

end SchemaCompiler.Schema
