import Mathlib.Logic.Relation
import SchemaCompiler.Proofs.Outcome
import SchemaCompiler.Proofs.Schema.Traversal

/-!
# The order of emission

An order that is found lists every record once, each after all records that it refers to
(`emissionOrder_dependencies_first`).  It is found exactly if all references have a target and no
record refers to itself, directly or through others (`emissionOrder_exists_iff`).  If it is not, the
error names the circle or the missing target (`referenced_error_genuine`).

The first part of the order comes from one traversal of all references of the schema, with an empty
trail: the records whose definitions are walked are not entered by this.  So a circle is not noticed
where the walk starts, but where it comes back to a record that it has entered on the way; that this
happens for every circle is the same as to say that an order that was found has none.
-/

namespace SchemaCompiler.Schema

open Relation

variable {s : Schema} {order : List String} {a b name : String} {e : Error}

/-! ### Chains of references -/

/-- In dependency order, everything behind a record stands before it. -/
theorem Ordered.idxOf_lt_of_transGen (h : s.Ordered order) (ha : a ∈ order)
    (hab : TransGen s.RefersTo a b) : order.idxOf b < order.idxOf a := by
  induction hab with
  | single hab => exact h.idxOf_lt ha hab
  | tail _ hbc ih =>
    exact (h.idxOf_lt (mem_of_idxOf_lt ih) hbc).trans ih

/-- Whoever stands before everything behind it is not behind itself. -/
theorem Ordered.not_transGen_self (h : s.Ordered order) (ha : a ∈ order) :
    ¬ TransGen s.RefersTo a a :=
  fun haa => (h.idxOf_lt_of_transGen ha haa).false

theorem transGen_of_isChain {between : List String}
    (h : (a :: between ++ [b]).IsChain s.RefersTo) : TransGen s.RefersTo a b := by
  induction between generalizing a with
  | nil => exact .single (List.isChain_pair.1 h)
  | cons next rest ih =>
    have hnext : s.RefersTo a next := h.rel
    exact .head hnext (ih h.tail)

/-- What keeps the records from being ordered is a missing target or a record behind itself. -/
theorem Obstruction.dangling_or_circular (h : s.Obstruction e) :
    (∃ a b, s.RefersTo a b ∧ b ∉ s.names) ∨ ∃ a, TransGen s.RefersTo a a := by
  cases h with
  | circle h =>
    obtain ⟨hchain, name, between, rfl, _⟩ := h
    exact .inr ⟨name, transGen_of_isChain hchain⟩
  | dangling hr hs => exact .inl ⟨_, _, hr, hs⟩

/-! ### All references of a schema -/

/-- The targets of all references, record by record. -/
def allReferences (s : Schema) : List String :=
  s.records.flatMap fun record => record.2.references

theorem mem_allReferences : b ∈ s.allReferences ↔ ∃ a, s.RefersTo a b := by
  simp only [allReferences, List.mem_flatMap, refersTo_iff, get?_eq_some_iff]
  constructor
  · rintro ⟨⟨a, definition⟩, hrecord, hb⟩
    exact ⟨a, definition, hrecord, hb⟩
  · rintro ⟨a, definition, hrecord, hb⟩
    exact ⟨(a, definition), hrecord, hb⟩

/-- Walking one definition after the other is visiting all references. -/
theorem referenced_eq (s : Schema) :
    s.referenced = s.allReferences.foldlM (fun done target => s.visit [] done target) [] := by
  suffices ∀ done : List String,
      s.records.foldlM (fun done record => s.walk [] done record.2) done =
        s.allReferences.foldlM (fun done target => s.visit [] done target) done from this []
  rw [allReferences]
  induction s.records with
  | nil => exact fun _ => rfl
  | cons record rest ih =>
    intro done
    rw [List.foldlM_cons, List.flatMap_cons, List.foldlM_append, walk]
    exact congrArg _ (funext ih)

theorem yields_referenced (s : Schema) : s.Yields [] [] s.allReferences s.referenced := by
  rw [referenced_eq]
  exact yields_foldlM (yields_visit s []) [] s.allReferences

/-- The empty trail leads to every reference. -/
theorem leadsTo_allReferences (s : Schema) : s.LeadsTo [] s.allReferences where
  nodup := List.nodup_nil
  chain target _ := List.isChain_singleton target
  referred _ ht := mem_allReferences.1 ht

/-! ### Success and failure -/

theorem emissionOrder_of_ok (h : s.emissionOrder = .ok order) :
    ∃ first, s.Completes [] [] s.allReferences first ∧
      order = first ++ s.names.filter fun name => name ∉ first := by
  have hyields := yields_referenced s
  obtain ⟨first, hfirst, h⟩ := Except.bind_eq_ok_iff.1 h
  rw [hfirst] at hyields
  exact ⟨first, hyields, (Except.ok.inj h).symm⟩

/-- An order that is found is a dependency order. -/
theorem ordered_emissionOrder (h : s.emissionOrder = .ok order) : s.Ordered order := by
  obtain ⟨first, hfirst, rfl⟩ := emissionOrder_of_ok h
  -- Every reference of the schema is among the first names, so the others may follow as declared.
  refine (hfirst.ordered .nil).append (s.keys_nodup.filter _) (fun name hn => ?_)
    (fun name _ target ht => hfirst.mem_of_mem (mem_allReferences.2 ⟨name, ht⟩))
  obtain ⟨hs, hf⟩ := List.mem_filter.1 hn
  exact ⟨hs, by simpa using hf⟩

/-- An order that is found has exactly the names of the schema. -/
theorem mem_emissionOrder (h : s.emissionOrder = .ok order) : name ∈ order ↔ name ∈ s.names := by
  refine ⟨(ordered_emissionOrder h).mem_names, fun hn => ?_⟩
  obtain ⟨first, _, rfl⟩ := emissionOrder_of_ok h
  by_cases hf : name ∈ first
  · exact List.mem_append_left _ hf
  · exact List.mem_append_right _ (List.mem_filter.2 ⟨hn, by simpa using hf⟩)

/-- If an order is found, every reference has a target. -/
theorem mem_names_of_refersTo (h : s.emissionOrder = .ok order) (hab : s.RefersTo a b) :
    b ∈ s.names := by
  have ha : a ∈ order := (mem_emissionOrder h).2 hab.mem_names
  have hb : b ∈ order := mem_of_idxOf_lt ((ordered_emissionOrder h).idxOf_lt ha hab)
  exact (mem_emissionOrder h).1 hb

/-- If an order is found, no record is behind itself. -/
theorem not_transGen_of_emissionOrder (h : s.emissionOrder = .ok order) :
    ¬ TransGen s.RefersTo a a := by
  intro haa
  obtain ⟨b, hab, _⟩ := TransGen.head'_iff.1 haa
  have ha : a ∈ order := (mem_emissionOrder h).2 hab.mem_names
  exact (ordered_emissionOrder h).not_transGen_self ha haa

theorem obstruction_of_referenced (h : s.referenced = .error e) : s.Obstruction e := by
  have hyields := yields_referenced s
  rw [h] at hyields
  exact Fails.obstruction hyields (leadsTo_allReferences s)

theorem obstruction_of_emissionOrder (h : s.emissionOrder = .error e) : s.Obstruction e := by
  rcases Except.bind_eq_error_iff.1 h with hfirst | ⟨_, _, h⟩
  · exact obstruction_of_referenced hfirst
  · cases h

/-! ### Circles -/

theorem IsCircle.refersTo {records : List String} {i : Nat} (h : s.IsCircle records)
    (ha : records[i]? = some a) (hb : records[i + 1]? = some b) : s.RefersTo a b := by
  obtain ⟨_, rfl⟩ := List.getElem?_eq_some_iff.1 ha
  obtain ⟨hlt, rfl⟩ := List.getElem?_eq_some_iff.1 hb
  exact h.1.getElem i hlt

/-- What stands on a circle refers to something, so it is a record. -/
theorem IsCircle.mem_names {records : List String} (h : s.IsCircle records)
    (hn : name ∈ records.dropLast) : name ∈ s.names := by
  obtain ⟨i, hi⟩ := List.mem_iff_getElem?.1 hn
  have hlt : i < records.dropLast.length := (List.getElem?_eq_some_iff.1 hi).1
  rw [List.length_dropLast] at hlt
  rw [List.getElem?_dropLast, if_pos hlt] at hi
  have hnext : i + 1 < records.length := by omega
  exact (h.refersTo hi (List.getElem?_eq_getElem hnext)).mem_names

/-! ### The order of emission -/

/-- **Every record comes once, and after all that it refers to**, wherever in its definition the
reference stands. -/
theorem emissionOrder_dependencies_first (h : s.emissionOrder = .ok order) :
    (∀ name, order.count name = if name ∈ s.names then 1 else 0) ∧
      ∀ a definition r, s.get? a = some definition → Json.HasReference r definition →
        order.idxOf (Reference.target r) < order.idxOf a := by
  have hordered := ordered_emissionOrder h
  refine ⟨fun name => ?_, fun a definition r hs hr => ?_⟩
  · rw [hordered.nodup.count]
    simp only [mem_emissionOrder h]
  · have ha : a ∈ order := (mem_emissionOrder h).2 (mem_names_of_get? hs)
    exact hordered.idxOf_lt ha ⟨definition, hs, r, hr, rfl⟩

/-- A schema in which references stand in a member, in the items of an array, in a field and under a
key that means nothing to the compiler. -/
def petShop : Schema := ofList
  [("Owner", .obj [("allOf", .arr [
      .obj [("$ref", .str "#/definitions/Base")],
      .obj [("properties", .obj [("pets", .obj [("type", .str "array"),
        ("items", .obj [("$ref", .str "#/components/schemas/Pet")])])])]])]),
   ("Pet", .obj [("properties", .obj [("name", .obj [("type", .str "string")])]),
      ("x-note", .obj [("see", .arr [.obj [("$ref", .str "Base")]])])]),
   ("Base", .obj [("properties", .obj [("id", .obj [("$ref", .str "#/definitions/Id")])])]),
   ("Id", .obj [("type", .str "string")])]

/-- The reference under the extension key puts `Base` before `Pet`. -/
theorem petShop_dependencies_first :
    petShop.emissionOrder = .ok ["Id", "Base", "Pet", "Owner"] ∧
      ["Id", "Base", "Pet", "Owner"].count "Pet" = 1 ∧
      ["Id", "Base", "Pet", "Owner"].idxOf (Reference.target "Base") <
        ["Id", "Base", "Pet", "Owner"].idxOf "Pet" := by
  have h : petShop.emissionOrder = .ok ["Id", "Base", "Pet", "Owner"] := by with_unfolding_all rfl
  obtain ⟨hcount, hbefore⟩ := emissionOrder_dependencies_first h
  refine ⟨h, hcount "Pet", hbefore "Pet" _ "Base" rfl ?_⟩
  exact .entry (.tail _ (.head _)) (.entry (.head _) (.item (.head _) (.here (.head _))))

/-- **An order is found exactly if every reference has a target and no record is behind itself.**
Nothing else can go wrong. -/
theorem emissionOrder_exists_iff (s : Schema) :
    ((∃ order, s.emissionOrder = .ok order) ↔
      (∀ a b, s.RefersTo a b → b ∈ s.names) ∧ ∀ a, ¬ TransGen s.RefersTo a a) ∧
    ∀ e, s.emissionOrder = .error e →
      (∃ records, e = .referenceCycle records) ∨ ∃ target, e = .unresolvedReference target := by
  refine ⟨⟨?_, ?_⟩, fun e he => ?_⟩
  · rintro ⟨order, h⟩
    refine ⟨fun a b hab => mem_names_of_refersTo h hab, fun a haa => ?_⟩
    -- A record that is behind itself refers to something, so it is a record of the schema.
    obtain ⟨b, hab, _⟩ := TransGen.head'_iff.1 haa
    have ha : a ∈ order := (mem_emissionOrder h).2 hab.mem_names
    exact (ordered_emissionOrder h).not_transGen_self ha haa
  · rintro ⟨hresolved, hacyclic⟩
    cases h : s.emissionOrder with
    | ok order => exact ⟨order, rfl⟩
    | error e =>
      rcases (obstruction_of_emissionOrder h).dangling_or_circular with ⟨a, b, hab, hb⟩ | ⟨a, haa⟩
      · exact absurd (hresolved a b hab) hb
      · exact absurd haa (hacyclic a)
  · cases obstruction_of_emissionOrder he with
    | circle _ => exact .inl ⟨_, rfl⟩
    | dangling _ _ => exact .inr ⟨_, rfl⟩

/-- **What is reported is really there.**  A circle that is reported starts and ends with the same
record, has no other record twice, and each of its records refers to the next.  A target that is
reported as missing is no record, and some record refers to it. -/
theorem referenced_error_genuine (h : s.referenced = .error e) :
    (∃ records : List String, e = .referenceCycle records ∧ 2 ≤ records.length ∧
      records.head? = records.getLast? ∧ records.dropLast.Nodup ∧
      (∀ name ∈ records.dropLast, name ∈ s.names) ∧
      ∀ (i : Nat) (a b : String), records[i]? = some a → records[i + 1]? = some b →
        s.RefersTo a b) ∨
    ∃ target : String, e = .unresolvedReference target ∧ target ∉ s.names ∧
      ∃ a, s.RefersTo a target := by
  cases obstruction_of_referenced h with
  | @circle records hcircle =>
    have hnames : ∀ name ∈ records.dropLast, name ∈ s.names := fun _ hn => hcircle.mem_names hn
    have hrefers : ∀ (i : Nat) (a b : String), records[i]? = some a → records[i + 1]? = some b →
        s.RefersTo a b := fun _ _ _ ha hb => hcircle.refersTo ha hb
    obtain ⟨_, name, between, rfl, hnodup⟩ := hcircle
    refine .inl ⟨_, rfl, ?_, ?_, ?_, hnames, hrefers⟩
    · simp
    · rw [List.getLast?_concat]
      rfl
    · rwa [List.dropLast_concat]
  | dangling hr hs => exact .inr ⟨_, rfl, hs, _, hr⟩

/-- `Cart` and `Offer` refer to each other, and both to a record that refers to nothing.  `Shop`
stands outside the circle and leads into it. -/
def endlessShop : Schema := ofList
  [("Shop", .obj [("properties", .obj [("item", .obj [("$ref", .str "#/definitions/Item")]),
      ("cart", .obj [("$ref", .str "#/definitions/Cart")])])]),
   ("Cart", .obj [("properties", .obj [("item", .obj [("$ref", .str "#/definitions/Item")]),
      ("offer", .obj [("$ref", .str "#/definitions/Offer")])])]),
   ("Offer", .obj [("allOf", .arr [.obj [("$ref", .str "#/definitions/Coupon")],
      .obj [("$ref", .str "#/definitions/Cart")]])]),
   ("Item", .obj [("type", .str "string")]),
   ("Coupon", .obj [("properties", .obj [])])]

/-- The records that were completed on the way are not part of what is reported. -/
theorem endlessShop_error_genuine :
    endlessShop.referenced = .error (.referenceCycle ["Cart", "Offer", "Cart"]) ∧
      endlessShop.RefersTo "Cart" "Offer" ∧ endlessShop.RefersTo "Offer" "Cart" := by
  have h : endlessShop.referenced = .error (.referenceCycle ["Cart", "Offer", "Cart"]) := by
    with_unfolding_all rfl
  rcases referenced_error_genuine h with
    ⟨records, heq, _, _, _, _, hrefers⟩ | ⟨target, heq, _⟩
  · obtain rfl := Error.referenceCycle.inj heq
    exact ⟨h, hrefers 0 _ _ rfl rfl, hrefers 1 _ _ rfl rfl⟩
  · cases heq

end SchemaCompiler.Schema
