import Mathlib.Logic.Relation
import SchemaCompiler.Proofs.Outcome
import SchemaCompiler.Proofs.Schema.Reference
import SchemaCompiler.Record.Normalize

/-!
# References through normalisation

Normalising a record reads references by itself: in a field without a `type`, and in a member of a
composition that has no properties of its own.  Every reference that it reads is one that the walk
through the definition meets.

* `Schema.transGen_of_record`: a record whose declaration uses the type of another record refers to
  it, directly or through a base that it is composed of.
* `Schema.record_error_cases`: a record that cannot be normalised has a definition that is wrong by
  itself, or the record or a base does not exist.
-/

namespace SchemaCompiler

open Relation

/-! ### The types of a record -/

/-- The types that a body is declared with. -/
def RecordBody.types : RecordBody → List FieldType
  | .wrapper type => [type]
  | .fields fs => fs.map Field.type

/-- The declaration of a record uses the type of the record `name`, at whatever array depth. -/
def Record.Uses (r : Record) (name : String) : Prop :=
  ∃ type ∈ r.body.types, type.record? = some name

/-- The causes that lie in a definition, its fields and what it is composed of. -/
def Error.liesInDefinition : Error → Bool
  | .unknownFieldKind _ | .missingNumberFormat _ | .missingArrayItems _
  | .unhandledRecordShape _ | .unsupportedComposition _ _ => true
  | _ => false

/-! ### Fields -/

namespace FieldType

theorem record?_ofNumberFormat (format : String) : (ofNumberFormat format).record? = none := by
  unfold ofNumberFormat
  split <;> rfl

/-- A type that is a record is read off a reference in the definition. -/
theorem mem_references_of_record? {d : Json} {type : FieldType} {name : String}
    (h : ofDefinition d = .ok type) (hn : type.record? = some name) : name ∈ d.references := by
  fun_induction ofDefinition d generalizing type with
  | case1 d _ target href =>
    obtain rfl := Except.ok.inj h
    obtain rfl := Option.some.inj hn
    exact Json.mem_references_of_reference? href
  | case4 d _ format _ =>
    obtain rfl := Except.ok.inj h
    rw [record?_ofNumberFormat] at hn
    cases hn
  | case8 d _ items hitems ih =>
    -- An array is one more level around the type, and its items one more around the reference.
    obtain ⟨item, hitem, rfl⟩ := Except.map_eq_ok_iff.1 h
    exact Json.mem_references_of_get? hitems (ih hitem hn)
  | case3 | case6 | case7 | case10 =>
    obtain rfl := Except.ok.inj h
    cases hn
  | case2 | case5 | case9 | case11 => cases h

theorem liesInDefinition_of_error {d : Json} {e : Error} (h : ofDefinition d = .error e) :
    e.liesInDefinition := by
  fun_induction ofDefinition d with
  | case8 d _ items _ ih => exact ih (Except.map_eq_error_iff.1 h)
  | case2 | case5 | case9 | case11 =>
    obtain rfl := Except.error.inj h
    rfl
  | case1 | case3 | case4 | case6 | case7 | case10 => cases h

end FieldType

/-! ### Properties -/

/-- A reference in a property of a definition is a reference in the definition. -/
theorem Json.mem_references_of_properties? {j : Json} {target : String} {properties : Entries Json}
    {p : String × Json} (hproperties : j.properties? = some properties) (hp : p ∈ properties)
    (h : target ∈ p.2.references) : target ∈ j.references := by
  obtain ⟨v, hv, hobj⟩ := Option.bind_eq_some_iff.1 hproperties
  cases v with
  | obj entries =>
    obtain rfl := Option.some.inj hobj
    refine mem_references_of_get? hv ?_
    rw [references, mem_entryReferences]
    exact ⟨p, hp, .inr h⟩
  | _ => simp [asObject?] at hobj

theorem exists_property {properties : Entries Json} {typed : List (String × FieldType)}
    {field : String × FieldType} (h : typedProperties properties = .ok typed)
    (hf : field ∈ typed) :
    ∃ p ∈ properties, p.1 = field.1 ∧ FieldType.ofDefinition p.2 = .ok field.2 := by
  obtain ⟨p, hp, hfield⟩ := List.exists_of_mem_mapM h hf
  obtain ⟨type, htype, rfl⟩ := Except.map_eq_ok_iff.1 hfield
  exact ⟨p, hp, rfl, htype⟩

theorem liesInDefinition_of_typedProperties {properties : Entries Json} {e : Error}
    (h : typedProperties properties = .error e) : e.liesInDefinition := by
  obtain ⟨_, p, _, _, _, hp⟩ := List.mapM_eq_error_iff.1 h
  exact FieldType.liesInDefinition_of_error (Except.map_eq_error_iff.1 hp)

/-- The fields of a record come from the typed keys that it is made of. -/
theorem mem_of_mem_fieldsOf {typed : List (String × FieldType)} {f : Field}
    (h : f ∈ fieldsOf typed) : (f.key, f.type) ∈ typed := by
  obtain ⟨e, he, rfl⟩ := List.mem_map.1 h
  exact Entries.mem_of_mem_ofList he

/-- The keys of the fields are the names of the entries that the typed keys make. -/
theorem keys_fieldsOf (typed : List (String × FieldType)) :
    (fieldsOf typed).map Field.key = (Entries.ofList typed).keys := by
  rw [fieldsOf, List.map_map]
  rfl

/-! ### Shapes -/

/-- What a shape says about the definition that it was found in. -/
theorem Shape.ofDefinition?_cases {d : Json} {shape : Shape}
    (h : Shape.ofDefinition? d = some shape) :
    (d.allowsObject = false ∧ shape = .bare d) ∨
    (d.allowsObject = true ∧ ∃ properties, d.properties? = some properties ∧
      shape = .fields properties) ∨
    (d.allowsObject = true ∧ d.properties? = none ∧ ∃ members,
      d.getArray? "allOf" = some members ∧ shape = .composed members) := by
  unfold Shape.ofDefinition? at h
  split at h
  · next hobject =>
    split at h
    · next properties hproperties =>
      exact .inr (.inl ⟨hobject, properties, hproperties, (Option.some.inj h).symm⟩)
    · next hproperties =>
      obtain ⟨members, hmembers, rfl⟩ := Option.map_eq_some_iff.1 h
      exact .inr (.inr ⟨hobject, hproperties, members, hmembers, rfl⟩)
  · next hobject =>
    exact .inl ⟨Bool.not_eq_true _ ▸ hobject, (Option.some.inj h).symm⟩

namespace Schema

variable {s : Schema} {record name : String} {d member : Json} {e : Error}

/-! ### Members of a composition -/

/-- The properties that a member of a composition brings in: its own, else those of the record that
it refers to, else none. -/
inductive Supplies (s : Schema) (member : Json) : Entries Json → Prop
  | own {properties : Entries Json} (h : member.properties? = some properties) :
      Supplies s member properties
  | base {base : String} {definition : Json} {properties : Entries Json}
      (h : member.properties? = none) (hr : member.reference? = some base)
      (hs : s.get? base = some definition) (hp : definition.properties? = some properties) :
      Supplies s member properties
  | nothing (h : member.properties? = none) (hr : member.reference? = none) : Supplies s member []

/-- A reference in a supplied property stands in the member, or in a base that the member refers to.
-/
theorem Supplies.mem_references {properties : Entries Json} {p : String × Json}
    (h : s.Supplies member properties) (hp : p ∈ properties) (hn : name ∈ p.2.references) :
    name ∈ member.references ∨ ∃ base ∈ member.references, s.RefersTo base name := by
  cases h with
  | own h => exact .inl (Json.mem_references_of_properties? h hp hn)
  | base _ hr hs hproperties =>
    refine .inr ⟨_, Json.mem_references_of_reference? hr, refersTo_iff.2 ⟨_, hs, ?_⟩⟩
    exact Json.mem_references_of_properties? hproperties hp hn
  | nothing => cases hp

/-- What a member contributes are the types of the properties that it brings in. -/
theorem supplies_of_contribution {typed : List (String × FieldType)}
    (h : s.contribution record member = .ok typed) :
    ∃ properties, s.Supplies member properties ∧ typedProperties properties = .ok typed := by
  unfold contribution at h
  -- The arms of the match are the three rules, but for a base without properties, which fails.
  split at h
  · next properties hproperties => exact ⟨properties, .own hproperties, h⟩
  · next base hproperties hbase =>
    obtain ⟨definition, hs, h⟩ := Except.bind_eq_ok_iff.1 h
    split at h
    · next properties hp =>
      exact ⟨properties, .base hproperties hbase (resolve_eq_ok_iff.1 hs) hp, h⟩
    · cases h
  · next hproperties hbase => exact ⟨[], .nothing hproperties hbase, h⟩

/-- A member fails to contribute because of a definition, or because its base does not exist. -/
theorem contribution_error_cases (h : s.contribution record member = .error e) :
    e.liesInDefinition ∨
      ∃ base, member.reference? = some base ∧ base ∉ s.names ∧ e = .unresolvedReference base := by
  unfold contribution at h
  split at h
  · exact .inl (liesInDefinition_of_typedProperties h)
  · next base _ hbase =>
    rcases Except.bind_eq_error_iff.1 h with h | ⟨definition, _, h⟩
    · obtain ⟨hs, rfl⟩ := resolve_eq_error_iff.1 h
      exact .inr ⟨base, hbase, hs, rfl⟩
    · split at h
      · exact .inl (liesInDefinition_of_typedProperties h)
      · obtain rfl := Except.error.inj h
        exact .inl rfl
  · cases h

/-! ### Records -/

/-- The types of a body come from references in the definition, or in a base that the definition
refers to. -/
theorem mem_references_of_body {shape : Shape} {body : RecordBody} {type : FieldType}
    (hshape : Shape.ofDefinition? d = some shape) (h : s.body record shape = .ok body)
    (ht : type ∈ body.types) (hn : type.record? = some name) :
    name ∈ d.references ∨ ∃ base ∈ d.references, s.RefersTo base name := by
  rcases Shape.ofDefinition?_cases hshape with
    ⟨_, rfl⟩ | ⟨_, properties, hproperties, rfl⟩ | ⟨_, _, members, hmembers, rfl⟩
  · obtain ⟨value, hvalue, rfl⟩ := Except.map_eq_ok_iff.1 h
    obtain rfl := List.mem_singleton.1 ht
    exact .inl (FieldType.mem_references_of_record? hvalue hn)
  · obtain ⟨typed, htyped, rfl⟩ := Except.map_eq_ok_iff.1 h
    obtain ⟨f, hf, rfl⟩ := List.mem_map.1 ht
    obtain ⟨p, hp, _, hfield⟩ := exists_property htyped (mem_of_mem_fieldsOf hf)
    have hmem := FieldType.mem_references_of_record? hfield hn
    exact .inl (Json.mem_references_of_properties? hproperties hp hmem)
  · -- Each field comes from one member, and each member stands in the definition.
    obtain ⟨parts, hparts, rfl⟩ := Except.map_eq_ok_iff.1 h
    obtain ⟨f, hf, rfl⟩ := List.mem_map.1 ht
    obtain ⟨typed, htyped, hf⟩ := List.mem_flatten.1 (mem_of_mem_fieldsOf hf)
    obtain ⟨member, hmember, hcontribution⟩ := List.exists_of_mem_mapM hparts htyped
    obtain ⟨properties, hsupplies, htyped⟩ := supplies_of_contribution hcontribution
    obtain ⟨p, hp, _, hfield⟩ := exists_property htyped hf
    have hmem := FieldType.mem_references_of_record? hfield hn
    rcases hsupplies.mem_references hp hmem with hmem | ⟨base, hbase, hrefers⟩
    · exact .inl (Json.mem_references_of_getArray? hmembers hmember hmem)
    · exact .inr ⟨base, Json.mem_references_of_getArray? hmembers hmember hbase, hrefers⟩

/-- A body that cannot be made has a definition that is wrong by itself, or a base that does not
exist. -/
theorem body_error_cases {shape : Shape} (hshape : Shape.ofDefinition? d = some shape)
    (h : s.body record shape = .error e) :
    e.liesInDefinition ∨
      ∃ base ∈ d.references, base ∉ s.names ∧ e = .unresolvedReference base := by
  rcases Shape.ofDefinition?_cases hshape with
    ⟨_, rfl⟩ | ⟨_, properties, _, rfl⟩ | ⟨_, _, members, hmembers, rfl⟩
  · exact .inl (FieldType.liesInDefinition_of_error (Except.map_eq_error_iff.1 h))
  · exact .inl (liesInDefinition_of_typedProperties (Except.map_eq_error_iff.1 h))
  · obtain ⟨before, member, after, rfl, _, hmember⟩ :=
      List.mapM_eq_error_iff.1 (Except.map_eq_error_iff.1 h)
    rcases contribution_error_cases hmember with h | ⟨base, hbase, hs, rfl⟩
    · exact .inl h
    · have hmem := Json.mem_references_of_reference? hbase
      have hin : member ∈ before ++ member :: after :=
        List.mem_append_right _ List.mem_cons_self
      exact .inr ⟨base, Json.mem_references_of_getArray? hmembers hin hmem, hs, rfl⟩

/-- How a record comes about. -/
theorem record_eq_ok_iff {r : Record} :
    s.record name = .ok r ↔ ∃ definition shape body, s.get? name = some definition ∧
      Shape.ofDefinition? definition = some shape ∧ s.body name shape = .ok body ∧
      r = ⟨name, body⟩ := by
  simp only [Schema.record, Except.bind_eq_ok_iff, resolve_eq_ok_iff]
  constructor
  · rintro ⟨definition, hs, h⟩
    split at h
    · cases h
    · next shape hshape =>
      obtain ⟨body, hbody, h⟩ := Except.bind_eq_ok_iff.1 h
      exact ⟨definition, shape, body, hs, hshape, hbody, (Except.ok.inj h).symm⟩
  · rintro ⟨definition, shape, body, hs, hshape, hbody, rfl⟩
    refine ⟨definition, hs, ?_⟩
    rw [hshape]
    exact Except.bind_eq_ok_iff.2 ⟨body, hbody, rfl⟩

theorem name_of_record {r : Record} (h : s.record name = .ok r) : r.name = name := by
  obtain ⟨_, _, _, _, _, _, rfl⟩ := record_eq_ok_iff.1 h
  rfl

/-- **A record refers to every record whose type it uses**: in its own definition, or in that of a
base that its definition refers to. -/
theorem transGen_of_record {r : Record} {n : String} (h : s.record name = .ok r) (hn : r.Uses n) :
    TransGen s.RefersTo name n := by
  obtain ⟨definition, shape, body, hs, hshape, hbody, rfl⟩ := record_eq_ok_iff.1 h
  obtain ⟨type, htype, hn⟩ := hn
  rcases mem_references_of_body hshape hbody htype hn with hmem | ⟨base, hbase, hrefers⟩
  · exact .single (refersTo_iff.2 ⟨definition, hs, hmem⟩)
  · exact .tail (.single (refersTo_iff.2 ⟨definition, hs, hbase⟩)) hrefers

/-- **Why a record cannot be normalised**: its definition is wrong by itself, or it does not exist,
or something that it refers to does not exist. -/
theorem record_error_cases (h : s.record name = .error e) :
    e.liesInDefinition ∨ ∃ target, (target = name ∨ s.RefersTo name target) ∧
      target ∉ s.names ∧ e = .unresolvedReference target := by
  rcases Except.bind_eq_error_iff.1 h with h | ⟨definition, hs, h⟩
  · obtain ⟨hname, rfl⟩ := resolve_eq_error_iff.1 h
    exact .inr ⟨name, .inl rfl, hname, rfl⟩
  · split at h
    · obtain rfl := Except.error.inj h
      exact .inl rfl
    · next shape hshape =>
      rcases Except.bind_eq_error_iff.1 h with h | ⟨_, _, h⟩
      · rcases body_error_cases hshape h with h | ⟨base, hbase, hb, rfl⟩
        · exact .inl h
        · have hrefers := refersTo_iff.2 ⟨definition, resolve_eq_ok_iff.1 hs, hbase⟩
          exact .inr ⟨base, .inr hrefers, hb, rfl⟩
      · cases h

end Schema

end SchemaCompiler
