import Mathlib.Data.List.Perm.Basic
import SchemaCompiler.Proofs.Compile

/-!
# The order of declaration

Two schemas that declare the same records in different orders compile to the same units; only the
order of the units can differ (`Schema.declaration_order_immaterial`).

The two runs part at the first step: their traversals start at different records, complete them in
different orders and may meet different errors.  So the argument does not follow the runs.  It goes
through what each stage has been shown to decide.  Whether there is an order depends on the relation
`Schema.RefersTo` alone, a record is normalised by look-ups alone, and the identifiers of a list of
records are distinct or not in whatever order the records stand.
-/

namespace SchemaCompiler.Schema

open Relation

variable {s s' : Schema} {o : Options} {order : List String} {rs : List Record}
  {file : SourceFile}

/-! ### What the order of declaration cannot change -/

theorem get?_eq_of_perm (h : s.records.Perm s'.records) (name : String) :
    s.get? name = s'.get? name := by
  ext definition
  rw [get?_eq_some_iff, get?_eq_some_iff, h.mem_iff]

theorem mem_names_iff_of_perm (h : s.records.Perm s'.records) {name : String} :
    name ∈ s.names ↔ name ∈ s'.names :=
  (h.map Prod.fst).mem_iff

theorem refersTo_eq_of_perm (h : s.records.Perm s'.records) : s.RefersTo = s'.RefersTo := by
  funext a b
  simp only [RefersTo, get?_eq_of_perm h]

theorem resolve_eq_of_perm (h : s.records.Perm s'.records) : s.resolve = s'.resolve := by
  funext name
  simp only [resolve, get?_eq_of_perm h]

/-- A record is normalised by look-ups alone. -/
theorem record_eq_of_perm (h : s.records.Perm s'.records) : s.record = s'.record := by
  have hcontribution : s.contribution = s'.contribution := by
    funext record member
    simp only [contribution, resolve_eq_of_perm h]
  have hbody : s.body = s'.body := by
    funext record shape
    cases shape <;> simp only [body, hcontribution]
  funext name
  simp only [Schema.record, resolve_eq_of_perm h, hbody]

/-! ### Stage by stage -/

/-- If there is an order for one schema, there is one for the other, with the same names. -/
theorem emissionOrder_of_perm (h : s.records.Perm s'.records)
    (horder : s.emissionOrder = .ok order) :
    ∃ order', s'.emissionOrder = .ok order' ∧ order.Perm order' := by
  cases horder' : s'.emissionOrder with
  | error e =>
    -- The obstruction is one of the relation, so it would stand in the way of the first order too.
    rcases (obstruction_of_emissionOrder horder').dangling_or_circular with
      ⟨a, b, hab, hb⟩ | ⟨a, haa⟩
    · rw [← refersTo_eq_of_perm h] at hab
      rw [← mem_names_iff_of_perm h] at hb
      exact absurd (mem_names_of_refersTo horder hab) hb
    · rw [← refersTo_eq_of_perm h] at haa
      exact absurd haa (not_transGen_of_emissionOrder horder)
  | ok order' =>
    refine ⟨order', rfl, ?_⟩
    have hnodup := (ordered_emissionOrder horder).nodup
    have hnodup' := (ordered_emissionOrder horder').nodup
    rw [List.perm_ext_iff_of_nodup hnodup hnodup']
    intro name
    rw [mem_emissionOrder horder, mem_emissionOrder horder', mem_names_iff_of_perm h]

/-- If one schema can be planned, so can the other, with the same records. -/
theorem plan_of_perm (h : s.records.Perm s'.records) (hplan : s.plan = .ok rs) :
    ∃ rs', s'.plan = .ok rs' ∧ rs.Perm rs' := by
  obtain ⟨order, horder, hrecords⟩ := plan_eq_ok_iff.1 hplan
  obtain ⟨order', horder', hperm⟩ := emissionOrder_of_perm h horder
  obtain ⟨rs', hrecords', hperm'⟩ := List.perm_comp_forall₂ hperm.symm hrecords
  rw [record_eq_of_perm h] at hrecords'
  exact ⟨rs', plan_eq_ok_iff.2 ⟨order', horder', hrecords'⟩, hperm'.symm⟩

/-- Identifiers are distinct in whatever order the records stand. -/
theorem checkIdentifiers_of_perm {t : Target} {rs' : List Record} (h : rs.Perm rs')
    (hcheck : t.checkIdentifiers rs = .ok ()) : t.checkIdentifiers rs' = .ok () := by
  obtain ⟨htypes, hmembers⟩ := Target.checkIdentifiers_eq_ok_iff.1 hcheck
  refine Target.checkIdentifiers_eq_ok_iff.2 ⟨?_, fun r hr => hmembers r (h.mem_iff.2 hr)⟩
  exact (h.map fun r => t.typeIdent r.name).nodup_iff.1 htypes

/-- If one schema compiles, so does the other, to a file of the same units and the same frame. -/
theorem compile_of_perm (h : s.records.Perm s'.records) (hfile : s.compile o = .ok file) :
    ∃ file', s'.compile o = .ok file' ∧ file.units.Perm file'.units ∧
      file.prologue = file'.prologue ∧ file.epilogue = file'.epilogue := by
  obtain ⟨rs, hplan, hcheck, rfl⟩ := compile_eq_ok_iff.1 hfile
  obtain ⟨rs', hplan', hperm⟩ := plan_of_perm h hplan
  have hcheck' := checkIdentifiers_of_perm hperm hcheck
  exact ⟨_, compile_eq_ok_iff.2 ⟨rs', hplan', hcheck', rfl⟩, hperm.map _, rfl, rfl⟩

/-! ### All stages -/

/-- **The order of declaration decides nothing but the order of the units.**  Of two schemas with
the same records, either both can be ordered, planned and compiled or neither; the plans have the
same records, and the files the same units between the same prologue and epilogue. -/
theorem declaration_order_immaterial (h : s.records.Perm s'.records) (o : Options) :
    ((∃ order, s.emissionOrder = .ok order) ↔ ∃ order, s'.emissionOrder = .ok order) ∧
    ((∃ rs, s.plan = .ok rs) ↔ ∃ rs, s'.plan = .ok rs) ∧
    ((∃ file, s.compile o = .ok file) ↔ ∃ file, s'.compile o = .ok file) ∧
    (∀ rs rs', s.plan = .ok rs → s'.plan = .ok rs' → rs.Perm rs') ∧
    ∀ file file', s.compile o = .ok file → s'.compile o = .ok file' →
      file.units.Perm file'.units ∧ file.prologue = file'.prologue ∧
        file.epilogue = file'.epilogue := by
  refine ⟨⟨?_, ?_⟩, ⟨?_, ?_⟩, ⟨?_, ?_⟩, fun rs rs' hrs hrs' => ?_, fun file file' hf hf' => ?_⟩
  · rintro ⟨order, horder⟩
    obtain ⟨order', horder', _⟩ := emissionOrder_of_perm h horder
    exact ⟨order', horder'⟩
  · rintro ⟨order, horder⟩
    obtain ⟨order', horder', _⟩ := emissionOrder_of_perm h.symm horder
    exact ⟨order', horder'⟩
  · rintro ⟨rs, hplan⟩
    obtain ⟨rs', hplan', _⟩ := plan_of_perm h hplan
    exact ⟨rs', hplan'⟩
  · rintro ⟨rs, hplan⟩
    obtain ⟨rs', hplan', _⟩ := plan_of_perm h.symm hplan
    exact ⟨rs', hplan'⟩
  · rintro ⟨file, hfile⟩
    obtain ⟨file', hfile', _⟩ := compile_of_perm h hfile
    exact ⟨file', hfile'⟩
  · rintro ⟨file, hfile⟩
    obtain ⟨file', hfile', _⟩ := compile_of_perm h.symm hfile
    exact ⟨file', hfile'⟩
  · obtain ⟨found, hfound, hperm⟩ := plan_of_perm h hrs
    obtain rfl : found = rs' := Except.ok.inj (hfound.symm.trans hrs')
    exact hperm
  · obtain ⟨found, hfound, hsame⟩ := compile_of_perm h hf
    obtain rfl : found = file' := Except.ok.inj (hfound.symm.trans hf')
    exact hsame

/-- Two records that nothing refers to, and what they refer to. -/
def market : Schema := ofList
  [("Cart", .obj [("properties", .obj [("item", .obj [("$ref", .str "#/definitions/Item")])])]),
   ("Shop", .obj [("properties", .obj [("coupon", .obj [("$ref", .str "#/definitions/Coupon")])])]),
   ("Item", .obj [("type", .str "string")]),
   ("Coupon", .obj [("type", .str "integer")])]

/-- The records of `market` from the last to the first. -/
def marketReversed : Schema :=
  ofList market.records.reverse

/-- The two orders differ at every place, and the files have the same units. -/
theorem market_order_immaterial :
    market.emissionOrder = .ok ["Item", "Coupon", "Cart", "Shop"] ∧
      marketReversed.emissionOrder = .ok ["Coupon", "Item", "Shop", "Cart"] ∧
      ∃ file file', market.compile ⟨.cpp none, none⟩ = .ok file ∧
        marketReversed.compile ⟨.cpp none, none⟩ = .ok file' ∧ file.units.Perm file'.units := by
  have hrecords : marketReversed.records = market.records.reverse := by rfl
  have hperm : market.records.Perm marketReversed.records :=
    hrecords ▸ (List.reverse_perm market.records).symm
  obtain ⟨_, _, hcompiles, _, hunits⟩ := declaration_order_immaterial hperm ⟨.cpp none, none⟩
  have hplan : market.plan = .ok
      [⟨"Item", .wrapper .string⟩, ⟨"Coupon", .wrapper (.integer .unspecified)⟩,
       ⟨"Cart", .fields [⟨"item", .record "Item", true⟩]⟩,
       ⟨"Shop", .fields [⟨"coupon", .record "Coupon", true⟩]⟩] := by with_unfolding_all rfl
  have hfile := compile_eq_ok_iff (o := ⟨.cpp none, none⟩).2 ⟨_, hplan, by rfl, rfl⟩
  obtain ⟨file', hfile'⟩ := hcompiles.1 ⟨_, hfile⟩
  refine ⟨by with_unfolding_all rfl, by with_unfolding_all rfl, _, file', hfile, hfile', ?_⟩
  exact (hunits _ _ hfile hfile').1

end SchemaCompiler.Schema
