import SchemaCompiler.Compile
import SchemaCompiler.Proofs.Record.Normalize
import SchemaCompiler.Proofs.Schema.Order
import SchemaCompiler.Proofs.SourceFile

/-!
# From order to source text

What the order of emission is worth to the generated code.

* `Schema.compile_declares_before_use`: whenever a record's declaration uses the type of another
  record, exactly one unit declares that type, it is the unit of that record, and it comes before.
* `Schema.errors_after_ordering`: once the records are ordered, every look-up of the stages that
  follow succeeds, and what can still go wrong is a definition or a collision of identifiers.

The stages look for references independently of each other.  What joins them is that every reference
that a later stage reads is one of the walk, and that whatever is behind a record in the relation
`Schema.RefersTo` stands before it in the order.
-/

namespace SchemaCompiler.Schema

open Relation

variable {s : Schema} {o : Options} {rs : List Record} {r : Record} {order : List String}
  {name n : String} {k : Nat}

/-! ### Plans -/

theorem plan_eq_ok_iff : s.plan = .ok rs ↔ ∃ order, s.emissionOrder = .ok order ∧
    List.Forall₂ (fun name r => s.record name = .ok r) order rs := by
  simp only [plan, Except.bind_eq_ok_iff, List.mapM_eq_ok_iff]

/-- A plan holds one record for each name of the order, and they come in that order. -/
theorem emissionOrder_of_plan (h : s.plan = .ok rs) :
    s.emissionOrder = .ok (rs.map Record.name) ∧ ∀ r ∈ rs, s.record r.name = .ok r := by
  obtain ⟨order, horder, hrecords⟩ := plan_eq_ok_iff.1 h
  rw [horder]
  clear h horder
  induction hrecords with
  | nil => exact ⟨rfl, by simp⟩
  | cons hr _ ih =>
    obtain rfl := name_of_record hr
    rw [List.map_cons, ← Except.ok.inj ih.1]
    exact ⟨rfl, List.forall_mem_cons.2 ⟨hr, ih.2⟩⟩

/-- A record whose type is used in a plan is planned earlier. -/
theorem exists_earlier_of_uses (h : s.plan = .ok rs) (hk : rs[k]? = some r) (hn : r.Uses n) :
    ∃ j d, j < k ∧ rs[j]? = some d ∧ d.name = n := by
  obtain ⟨horder, hrecords⟩ := emissionOrder_of_plan h
  have hordered := ordered_emissionOrder horder
  have hr := List.mem_of_getElem? hk
  have hrefers := transGen_of_record (hrecords r hr) hn
  have hlt := hordered.idxOf_lt_of_transGen (List.mem_map_of_mem hr) hrefers
  -- The names in the order are distinct, so the position of `r.name` is the index `k`.
  have hkname : (rs.map Record.name)[k]? = some r.name := by rw [List.getElem?_map, hk]; rfl
  have hidx : (rs.map Record.name).idxOf r.name = k := by
    obtain ⟨hklt, hkget⟩ := List.getElem?_eq_some_iff.1 hkname
    rw [← hkget]
    exact hordered.nodup.idxOf_getElem k hklt
  have hj : (rs.map Record.name)[(rs.map Record.name).idxOf n]? = some n :=
    List.getElem?_idxOf (mem_of_idxOf_lt hlt)
  rw [List.getElem?_map] at hj
  obtain ⟨d, hd, hdname⟩ := Option.map_eq_some_iff.1 hj
  exact ⟨_, d, hidx ▸ hlt, hd, hdname⟩

/-! ### Declarations and uses -/

theorem compile_eq_ok_iff {file : SourceFile} : s.compile o = .ok file ↔ ∃ rs, s.plan = .ok rs ∧
    o.target.checkIdentifiers rs = .ok () ∧ file = ⟨o.target.prologue o.spaceName,
      rs.map fun r => ⟨r.name, o.target.recordText r⟩, o.target.epilogue⟩ := by
  simp only [compile, Except.bind_eq_ok_iff, Target.emit_eq_ok_iff]

/-- The stages of a compilation, any of which may fail. -/
theorem compile_eq_error_iff {e : Error} : s.compile o = .error e ↔
    s.emissionOrder = .error e ∨
    (∃ order, s.emissionOrder = .ok order ∧ order.mapM s.record = .error e) ∨
    ∃ rs, s.plan = .ok rs ∧ o.target.emit o.spaceName rs = .error e := by
  simp only [compile, Except.bind_eq_error_iff]
  rw [plan, Except.bind_eq_error_iff, or_assoc]

/-- **Every type is declared once, and before it is used.**  A compiled schema has one unit for each
planned record.  If the declaration of the record at `k` uses the type of the record `n`, at
whatever array depth, then the record `n` stands at an index `j` before `k`, and `j` is the only
index whose record has the type identifier that is spelled out at `k`. -/
theorem compile_declares_before_use {file : SourceFile} (h : s.compile o = .ok file) :
    ∃ rs : List Record, s.plan = .ok rs ∧
      file.units = rs.map (fun r => ⟨r.name, o.target.recordText r⟩) ∧
      ∀ (k : Nat) (r : Record) (n : String), rs[k]? = some r → r.Uses n →
        ∃ (j : Nat) (d : Record), j < k ∧ rs[j]? = some d ∧ d.name = n ∧
          ∀ (i : Nat) (u : Record), rs[i]? = some u →
            (o.target.typeIdent u.name = o.target.spelling (.record n) ↔ i = j) := by
  obtain ⟨rs, hplan, hcheck, rfl⟩ := compile_eq_ok_iff.1 h
  have hnodup := (Target.checkIdentifiers_eq_ok_iff.1 hcheck).1
  refine ⟨rs, hplan, rfl, fun k r n hk hn => ?_⟩
  obtain ⟨j, d, hjk, hj, rfl⟩ := exists_earlier_of_uses hplan hk hn
  refine ⟨j, d, hjk, hj, rfl, fun i u hi => ?_⟩
  have hspelling : o.target.spelling (.record d.name) = o.target.typeIdent d.name := by
    cases o.target <;> rfl
  -- Identifiers are distinct, so two records have the same one only if they are at the same index.
  have hlength : i < (rs.map fun r => o.target.typeIdent r.name).length := by
    rw [List.length_map]
    exact (List.getElem?_eq_some_iff.1 hi).1
  have hinj := List.getElem?_inj (j := j) hlength hnodup
  rw [List.getElem?_map, List.getElem?_map, hi, hj] at hinj
  rw [hspelling, ← hinj]
  exact Option.some_inj.symm

/-- The records of `petShop` in the order of emission.  `Owner` has the field `id` from its base. -/
def petShopPlan : List Record :=
  [⟨"Id", .wrapper .string⟩,
   ⟨"Base", .fields [⟨"id", .record "Id", true⟩]⟩,
   ⟨"Pet", .fields [⟨"name", .string, true⟩]⟩,
   ⟨"Owner", .fields [⟨"id", .record "Id", true⟩, ⟨"pets", .array (.record "Pet"), true⟩]⟩]

/-- The last record uses a type that only the definition of its base refers to. -/
theorem petShop_declares_before_use :
    petShop.plan = .ok petShopPlan ∧ (∃ file, petShop.compile ⟨.rust, none⟩ = .ok file) ∧
      ∃ (j : Nat) (d : Record), j < 3 ∧ petShopPlan[j]? = some d ∧ d.name = "Id" ∧
        ∀ (i : Nat) (u : Record), petShopPlan[i]? = some u →
          (Target.rust.typeIdent u.name = Target.rust.spelling (.record "Id") ↔ i = j) := by
  have hplan : petShop.plan = .ok petShopPlan := by with_unfolding_all rfl
  have hcheck : Target.rust.checkIdentifiers petShopPlan = .ok () := by rfl
  have hfile := compile_eq_ok_iff (o := ⟨.rust, none⟩).2 ⟨petShopPlan, hplan, hcheck, rfl⟩
  obtain ⟨rs, hrs, _, huses⟩ := compile_declares_before_use hfile
  obtain rfl : petShopPlan = rs := Except.ok.inj (hplan.symm.trans hrs)
  exact ⟨hplan, ⟨_, hfile⟩, huses 3 _ "Id" rfl ⟨.record "Id", by simp [RecordBody.types], rfl⟩⟩

/-! ### What can still go wrong -/

/-- Once the records are ordered, only definitions can keep them from being planned. -/
theorem liesInDefinition_of_plan {e : Error} (horder : s.emissionOrder = .ok order)
    (h : s.plan = .error e) : e.liesInDefinition := by
  rw [plan, horder] at h
  obtain ⟨before, name, after, rfl, _, hname⟩ := List.mapM_eq_error_iff.1 h
  rcases record_error_cases hname with h | ⟨target, htarget, hmissing, _⟩
  · exact h
  · -- The record is one of the order, and what it refers to exists.
    rcases htarget with rfl | hrefers
    · exact absurd ((mem_emissionOrder horder).1 (by simp)) hmissing
    · exact absurd (mem_names_of_refersTo horder hrefers) hmissing

/-- **After ordering, every look-up succeeds.**  The records of the order exist, and so does every
base that a member of their compositions refers to.  Planning can only fail because of a definition,
and compiling only because of that or of a collision. -/
theorem errors_after_ordering (h : s.emissionOrder = .ok order) (o : Options) :
    (∀ name ∈ order, ∃ definition, s.resolve name = .ok definition ∧
      ∀ members, definition.getArray? "allOf" = some members → ∀ member ∈ members,
        ∀ base, member.reference? = some base → ∃ found, s.resolve base = .ok found) ∧
    (∀ e, s.plan = .error e → e.liesInDefinition) ∧
    ∀ e, s.compile o = .error e → e.liesInDefinition ∨ e.isCollision := by
  refine ⟨fun name hname => ?_, fun e he => liesInDefinition_of_plan h he, fun e he => ?_⟩
  · obtain ⟨definition, hs⟩ := exists_get?_of_mem ((mem_emissionOrder h).1 hname)
    refine ⟨definition, resolve_eq_ok_iff.2 hs, ?_⟩
    intro members hmembers member hmember base hbase
    have hmem := Json.mem_references_of_getArray? hmembers hmember
      (Json.mem_references_of_reference? hbase)
    have hrefers : s.RefersTo name base := refersTo_iff.2 ⟨definition, hs, hmem⟩
    obtain ⟨found, hfound⟩ := exists_get?_of_mem (mem_names_of_refersTo h hrefers)
    exact ⟨found, resolve_eq_ok_iff.2 hfound⟩
  · rcases Except.bind_eq_error_iff.1 he with he | ⟨rs, _, he⟩
    · exact .inl (liesInDefinition_of_plan h he)
    · exact .inr (Target.isCollision_of_emit he)

/-- A record that is composed of one without fields: the base is found, and is refused. -/
def composedOfString : Schema := ofList
  [("Code", .obj [("allOf", .arr [.obj [("$ref", .str "#/definitions/Id")]])]),
   ("Id", .obj [("type", .str "string")])]

theorem composedOfString_errors_after_ordering :
    composedOfString.emissionOrder = .ok ["Id", "Code"] ∧
      (∃ found, composedOfString.resolve "Id" = .ok found) ∧
      composedOfString.plan = .error (.unsupportedComposition "Code" "Id") ∧
      (Error.unsupportedComposition "Code" "Id").liesInDefinition := by
  have horder : composedOfString.emissionOrder = .ok ["Id", "Code"] := by with_unfolding_all rfl
  have hplan : composedOfString.plan = .error (.unsupportedComposition "Code" "Id") := by
    with_unfolding_all rfl
  obtain ⟨hfound, herror, _⟩ := errors_after_ordering horder ⟨.cpp none, none⟩
  obtain ⟨definition, hdefinition, hbases⟩ := hfound "Code" (by decide)
  obtain rfl := Except.ok.inj hdefinition
  exact ⟨horder, hbases _ rfl _ List.mem_cons_self "Id" rfl, hplan, herror _ hplan⟩

end SchemaCompiler.Schema
