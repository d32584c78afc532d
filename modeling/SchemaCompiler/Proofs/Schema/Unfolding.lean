import SchemaCompiler.Proofs.FirstOccurrence
import SchemaCompiler.Proofs.Schema.Order

/-!
# The order as an unfolding

Dependency order leaves open in which of many orders the records come.  Which one it is can be said
without the list of completed names that a traversal carries along.  `Schema.Unfolds` goes through a
value from left to right and into its depth, and follows every reference whenever it is met, however
often that is: what the definition of the target unfolds to comes first, and then the target.  The
unfolding of a schema may be exponentially longer than the schema, but of every name only the first
occurrence counts:

* `referenced_eq_eraseDups_unfolding`: the referenced records come in the order of their first
  occurrences in the unfolding, and the others follow as they are declared.

The traversal leaves out the unfolding of every record that is complete.  This changes no first
occurrence because the completed names are closed: all that such a record unfolds to is among them
(`Ordered.exists_follows`).
-/

namespace SchemaCompiler

/-! ### Unfolding -/

/-- What a value is made of, in document order: the entries of an object, or the items of an array,
which have no key. -/
def Json.parts : Json → List (String × Json)
  | obj entries => entries
  | arr items => items.map fun item => ("", item)
  | _ => []

namespace Schema

/-- What parts of a value come to if each reference is followed whenever it is met.  A reference
comes to all that the definition of its target comes to, and then the target; any other part comes
to what it is made of. -/
inductive Unfolds (s : Schema) : (parts : List (String × Json)) → (names : List String) → Prop
  | nil : Unfolds s [] []
  | reference {r : String} {definition : Json} {rest : List (String × Json)}
      {below after : List String} (hs : s.get? (Reference.target r) = some definition)
      (hbelow : Unfolds s definition.parts below) (hrest : Unfolds s rest after) :
      Unfolds s (("$ref", .str r) :: rest) (below ++ Reference.target r :: after)
  | inside {p : String × Json} {rest : List (String × Json)} {names after : List String}
      (hp : ∀ r, p ≠ ("$ref", .str r)) (hinside : Unfolds s p.2.parts names)
      (hrest : Unfolds s rest after) : Unfolds s (p :: rest) (names ++ after)

/-- What targets come to that are followed one after the other, each of them whenever it is met. -/
inductive Follows (s : Schema) : (targets names : List String) → Prop
  | nil : Follows s [] []
  | cons {target : String} {definition : Json} {rest below after : List String}
      (hs : s.get? target = some definition) (hbelow : Follows s definition.references below)
      (hrest : Follows s rest after) : Follows s (target :: rest) (below ++ target :: after)

variable {s : Schema} {trail done targets done' names : List String} {j : Json}

/-! ### Targets one after the other -/

/-- Targets come to one list only. -/
theorem Follows.unique {names' : List String} (h : s.Follows targets names)
    (h' : s.Follows targets names') : names' = names := by
  induction h generalizing names' with
  | nil =>
    cases h'
    rfl
  | cons hs _ _ ihbelow ihrest =>
    cases h' with
    | cons hs' hbelow' hrest' =>
      obtain rfl := Option.some.inj (hs.symm.trans hs')
      rw [ihbelow hbelow', ihrest hrest']

theorem Follows.append {targets' names' : List String} (h : s.Follows targets names)
    (h' : s.Follows targets' names') : s.Follows (targets ++ targets') (names ++ names') := by
  induction h with
  | nil => exact h'
  | cons hs hbelow _ _ ihrest =>
    rw [List.append_assoc, List.cons_append]
    exact .cons hs hbelow ihrest

/-- Targets are followed part by part. -/
theorem Follows.of_append {targets' : List String} (h : s.Follows (targets ++ targets') names) :
    ∃ first second, s.Follows targets first ∧ s.Follows targets' second ∧
      names = first ++ second := by
  induction targets generalizing names with
  | nil => exact ⟨[], names, .nil, h, rfl⟩
  | cons target rest ih =>
    cases h with
    | cons hs hbelow hrest =>
      obtain ⟨first, second, hfirst, hsecond, rfl⟩ := ih hrest
      refine ⟨_, second, .cons hs hbelow hfirst, hsecond, ?_⟩
      rw [List.append_assoc, List.cons_append]

/-- All references of a list of records are followed record by record. -/
theorem Follows.of_flatMap {records : Entries Json}
    (h : s.Follows (records.flatMap fun record => record.2.references) names) :
    ∃ parts, List.Forall₂ (fun record part => s.Follows record.2.references part) records parts ∧
      names = parts.flatten := by
  induction records generalizing names with
  | nil =>
    cases h
    exact ⟨[], .nil, rfl⟩
  | cons record rest ih =>
    rw [List.flatMap_cons] at h
    obtain ⟨first, second, hfirst, hsecond, rfl⟩ := h.of_append
    obtain ⟨parts, hparts, rfl⟩ := ih hsecond
    exact ⟨first :: parts, .cons hfirst hparts, rfl⟩

/-! ### The references of a value -/

/-- The references of a value are those of its parts. -/
theorem entryReferences_parts (j : Json) : Json.entryReferences j.parts = j.references := by
  cases j with
  | obj entries => rw [Json.parts, Json.references]
  | arr items =>
    rw [Json.parts, Json.references]
    induction items with
    | nil => rfl
    | cons item rest ih =>
      have hitem : Json.entryReference "" item = [] := by cases item <;> rfl
      rw [List.map_cons, Json.entryReferences, Json.itemReferences, hitem, ih, List.nil_append]
  | null | bool _ | num _ | str _ => rfl

theorem sizeOf_lt_of_mem_parts {p : String × Json} (h : p ∈ j.parts) : sizeOf p.2 < sizeOf j := by
  cases j with
  | obj entries => exact Json.sizeOf_lt_obj h
  | arr items =>
    obtain ⟨item, hitem, rfl⟩ := List.mem_map.1 h
    exact Json.sizeOf_lt_arr hitem
  | null | bool _ | num _ | str _ => cases h

/-- An entry that is no reference has only the references inside it. -/
theorem entryReference_eq_nil {p : String × Json} (hp : ∀ r, p ≠ ("$ref", .str r)) :
    Json.entryReference p.1 p.2 = [] := by
  refine List.eq_nil_iff_forall_not_mem.2 fun target htarget => ?_
  obtain ⟨hkey, r, hr, _⟩ := Json.mem_entryReference.1 htarget
  exact hp r (Prod.ext hkey hr)

/-- To unfold parts is to follow their references. -/
theorem Unfolds.follows {parts : List (String × Json)} (h : s.Unfolds parts names) :
    s.Follows (Json.entryReferences parts) names := by
  induction h with
  | nil => exact .nil
  | reference hs _ _ ihbelow ihrest =>
    rw [entryReferences_parts] at ihbelow
    exact .cons hs ihbelow ihrest
  | @inside p rest _ _ hp _ _ ihinside ihrest =>
    rw [entryReferences_parts] at ihinside
    rw [Json.entryReferences, entryReference_eq_nil hp, List.nil_append]
    exact ihinside.append ihrest

/-- Parts can be unfolded if each of them can, and every target has an unfolding. -/
theorem exists_unfolds_of_forall {parts : List (String × Json)}
    (hinside : ∀ p ∈ parts, ∃ names, s.Unfolds p.2.parts names)
    (htargets : ∀ target ∈ Json.entryReferences parts, ∃ definition names,
      s.get? target = some definition ∧ s.Unfolds definition.parts names) :
    ∃ names, s.Unfolds parts names := by
  induction parts with
  | nil => exact ⟨[], .nil⟩
  | cons p rest ih =>
    rw [Json.entryReferences] at htargets
    obtain ⟨after, hafter⟩ := ih (fun q hq => hinside q (List.mem_cons_of_mem _ hq))
      (fun target ht => htargets target (List.mem_append_right _ ht))
    by_cases hp : ∃ r, p = ("$ref", .str r)
    · obtain ⟨r, rfl⟩ := hp
      obtain ⟨definition, below, hs, hbelow⟩ := htargets (Reference.target r) List.mem_cons_self
      exact ⟨_, .reference hs hbelow hafter⟩
    · obtain ⟨names, hnames⟩ := hinside p List.mem_cons_self
      exact ⟨_, .inside (not_exists.1 hp) hnames hafter⟩

/-- A value can be unfolded if every target in it has an unfolding. -/
theorem exists_unfolds (j : Json) (htargets : ∀ target ∈ j.references, ∃ definition names,
    s.get? target = some definition ∧ s.Unfolds definition.parts names) :
    ∃ names, s.Unfolds j.parts names := by
  rw [← entryReferences_parts] at htargets
  refine exists_unfolds_of_forall (fun p hp => ?_) htargets
  refine exists_unfolds p.2 fun target ht => htargets target ?_
  exact Json.mem_entryReferences.2 ⟨p, hp, .inr ht⟩
termination_by sizeOf j
decreasing_by exact sizeOf_lt_of_mem_parts hp

/-- Every target that is followed has an unfolding. -/
theorem Follows.exists_unfolds (h : s.Follows targets names) : ∀ target ∈ targets,
    ∃ definition names, s.get? target = some definition ∧ s.Unfolds definition.parts names := by
  induction h with
  | nil => exact fun _ ht => absurd ht List.not_mem_nil
  | @cons target definition _ _ _ hs _ _ ihbelow ihrest =>
    intro other ho
    rcases List.mem_cons.1 ho with rfl | ho
    · obtain ⟨below, hbelow⟩ := Schema.exists_unfolds definition ihbelow
      exact ⟨definition, below, hs, hbelow⟩
    · exact ihrest other ho

/-- **To unfold a value is to follow its references** in the order in which the walk meets them. -/
theorem unfolds_parts_iff : s.Unfolds j.parts names ↔ s.Follows j.references names := by
  constructor
  · intro h
    rw [← entryReferences_parts]
    exact h.follows
  · intro h
    obtain ⟨names', hnames'⟩ := Schema.exists_unfolds j h.exists_unfolds
    have hfollows := hnames'.follows
    rw [entryReferences_parts] at hfollows
    rwa [← h.unique hfollows]

/-! ### Completed records -/

/-- If every single target comes to names of a list, so do all of them together. -/
theorem exists_follows_of_forall {among : List String}
    (h : ∀ target ∈ targets, ∃ names, s.Follows [target] names ∧ ∀ name ∈ names, name ∈ among) :
    ∃ names, s.Follows targets names ∧ ∀ name ∈ names, name ∈ among := by
  induction targets with
  | nil => exact ⟨[], .nil, by simp⟩
  | cons target rest ih =>
    obtain ⟨first, hfirst, hamong⟩ := h target List.mem_cons_self
    obtain ⟨second, hsecond, hamong'⟩ := ih fun other ho => h other (List.mem_cons_of_mem _ ho)
    refine ⟨first ++ second, hfirst.append hsecond, fun name hname => ?_⟩
    rcases List.mem_append.1 hname with hname | hname
    · exact hamong name hname
    · exact hamong' name hname

/-- **Completed records come to completed records.** -/
theorem Ordered.exists_follows (h : s.Ordered done) (ht : ∀ target ∈ targets, target ∈ done) :
    ∃ names, s.Follows targets names ∧ ∀ name ∈ names, name ∈ done := by
  induction h generalizing targets with
  | nil =>
    refine exists_follows_of_forall fun target htarget => ?_
    cases ht target htarget
  | @snoc done name definition _ _ hs hr ih =>
    refine exists_follows_of_forall fun target htarget => ?_
    rcases List.mem_append.1 (ht target htarget) with hdone | hname
    · have hsingle : ∀ other ∈ [target], other ∈ done :=
        fun other ho => List.mem_singleton.1 ho ▸ hdone
      obtain ⟨names, hnames, hamong⟩ := ih hsingle
      exact ⟨names, hnames, fun other ho => List.mem_append_left _ (hamong other ho)⟩
    · -- The record that was completed last refers to records that were complete before.
      obtain rfl := List.mem_singleton.1 hname
      obtain ⟨below, hbelow, hamong⟩ := ih hr
      refine ⟨below ++ [target], .cons hs hbelow .nil, fun other ho => ?_⟩
      rcases List.mem_append.1 ho with ho | ho
      · exact List.mem_append_left _ (hamong other ho)
      · exact List.mem_append_right _ ho

/-! ### Traversals -/

/-- **A traversal appends what is new in what its targets come to**, in the order of first
occurrences. -/
theorem Completes.follows (h : s.Completes trail done targets done') (hdone : s.Ordered done) :
    ∃ names, s.Follows targets names ∧ done' = (done ++ names).eraseDups := by
  induction h with
  | nil =>
    refine ⟨[], .nil, ?_⟩
    rw [List.append_nil, hdone.nodup.eraseDups_eq]
  | @known trail done rest done' target hd _ ih =>
    -- The traversal passes over the target, which comes to nothing that is not there already.
    have hsingle : ∀ other ∈ [target], other ∈ done :=
      fun other ho => List.mem_singleton.1 ho ▸ hd
    obtain ⟨first, hfirst, hamong⟩ := hdone.exists_follows hsingle
    obtain ⟨after, hafter, rfl⟩ := ih hdone
    refine ⟨first ++ after, hfirst.append hafter, ?_⟩
    rw [← List.append_assoc, ← List.eraseDups_eraseDups_append (done ++ first),
      List.eraseDups_append_of_subset hamong, List.eraseDups_eraseDups_append]
  | @enter trail done rest inner done' target definition hd ht hs hinner _ ihinner ihrest =>
    have hnext : s.Ordered (inner ++ [target]) :=
      Completes.ordered (.enter hd ht hs hinner .nil) hdone
    obtain ⟨below, hbelow, rfl⟩ := ihinner hdone
    obtain ⟨after, hafter, rfl⟩ := ihrest hnext
    refine ⟨below ++ target :: after, .cons hs hbelow hafter, ?_⟩
    rw [List.append_assoc, List.eraseDups_eraseDups_append, List.append_assoc,
      List.singleton_append]

/-- **The order of emission is the unfolding without repetitions.**  If the references of a schema
can be followed, the definition of each record has exactly one unfolding.  Put one after the other
in the order of declaration, and with only the first occurrence of every name kept, they are the
referenced records; the order of emission adds the remaining records as they are declared. -/
theorem referenced_eq_eraseDups_unfolding {first : List String} (h : s.referenced = .ok first) :
    (∃ unfoldings : List (List String),
      List.Forall₂ (fun record unfolding =>
        ∀ names, s.Unfolds record.2.parts names ↔ names = unfolding) s.records unfoldings ∧
      first = unfoldings.flatten.eraseDups) ∧
    s.emissionOrder = .ok (first ++ s.names.filter fun name => name ∉ first) := by
  constructor
  · have hyields := yields_referenced s
    rw [h] at hyields
    obtain ⟨names, hnames, hfirst⟩ := Completes.follows hyields .nil
    obtain ⟨unfoldings, hunfoldings, rfl⟩ := hnames.of_flatMap
    refine ⟨unfoldings, hunfoldings.imp fun record unfolding hrecord names => ?_, hfirst⟩
    rw [unfolds_parts_iff]
    exact ⟨hrecord.unique, fun heq => heq ▸ hrecord⟩
  · rw [emissionOrder, h]
    rfl

/-- The unfolding of `Owner` meets `Id` and `Base` twice, and their first occurrences count. -/
theorem petShop_unfolding :
    petShop.referenced = .ok ["Id", "Base", "Pet"] ∧
      (∃ others, ["Id", "Base", "Pet"] =
        (["Id", "Base", "Id", "Base", "Pet"] ++ others).eraseDups) ∧
      petShop.emissionOrder = .ok (["Id", "Base", "Pet"] ++ ["Owner"]) := by
  have h : petShop.referenced = .ok ["Id", "Base", "Pet"] := by with_unfolding_all rfl
  have hid : petShop.Follows ["Id"] ([] ++ ["Id"]) := .cons rfl .nil .nil
  have hbase : petShop.Follows ["Base"] (["Id"] ++ ["Base"]) := .cons rfl hid .nil
  have hpet : petShop.Follows ["Pet"] (["Id", "Base"] ++ ["Pet"]) := .cons rfl hbase .nil
  obtain ⟨⟨unfoldings, hunfoldings, hfirst⟩, horder⟩ := referenced_eq_eraseDups_unfolding h
  obtain ⟨owner, others, howner, _, rfl⟩ := List.forall₂_cons_left_iff.1 hunfoldings
  obtain rfl := (howner _).1 (unfolds_parts_iff.2 (hbase.append hpet))
  exact ⟨h, ⟨others.flatten, hfirst⟩, horder⟩

end Schema

end SchemaCompiler
