import SchemaCompiler.Proofs.Record.Composition
import SchemaCompiler.Proofs.Record.Grammar

/-!
# What a record is composed of

A member of a composition without properties of its own takes the fields of the record that it
refers to.  Whether that record is a field container is decided twice: a composition looks for its
properties alone, but the shape of a record is found by its `type` first.

* `Schema.base_of_composition`: a base has properties, whose keys are keys of the composed record.
  It is a field container by itself unless it has a `type` other than `object`, and then its fields
  are fields of the composed record.
* `Schema.labels_base_is_bare`: a base with properties and another `type` is a bare type by itself,
  and yet its properties become fields.
-/

namespace SchemaCompiler.Schema

variable {s : Schema} {name base : String} {d member : Json} {members : List Json} {r : Record}

/-! ### Keys -/

/-- Typed properties have the keys of the properties. -/
theorem keys_of_typedProperties {properties : Entries Json} {typed : Entries FieldType}
    (h : typedProperties properties = .ok typed) : typed.keys = properties.keys := by
  rw [typedProperties_eq_ok_iff] at h
  induction h with
  | nil => rfl
  | cons hp _ ih => rw [Entries.keys_cons, Entries.keys_cons, hp.1, ih]

/-- Every typed key is that of a field. -/
theorem mem_keys_fieldsOf {typed : Entries FieldType} {key : String} :
    key ∈ (fieldsOf typed).map Field.key ↔ key ∈ typed.keys := by
  rw [keys_fieldsOf, Entries.keys_ofList, List.mem_eraseDups]

/-- What a member contributes are fields of the composed record. -/
theorem exists_contribution (hs : s.get? name = some d)
    (hshape : Shape.ofDefinition? d = some (.composed members)) (h : s.record name = .ok r)
    (hmember : member ∈ members) :
    ∃ typed : Entries FieldType, s.contribution name member = .ok typed ∧
      ∀ key ∈ typed.keys, key ∈ r.fields.map Field.key := by
  rw [record_of_shape hs hshape] at h
  obtain ⟨body, hbody, rfl⟩ := Except.map_eq_ok_iff.1 h
  obtain ⟨parts, hparts, rfl⟩ := Except.map_eq_ok_iff.1 hbody
  obtain ⟨typed, htyped, hcontribution⟩ := List.exists_mem_of_mapM hparts hmember
  refine ⟨typed, hcontribution, fun key hkey => mem_keys_fieldsOf.2 ?_⟩
  obtain ⟨field, hfield, rfl⟩ := List.mem_map.1 hkey
  exact List.mem_map.2 ⟨field, List.mem_flatten.2 ⟨typed, htyped, hfield⟩, rfl⟩

/-! ### Bases -/

/-- A record with properties is a field container, unless it has a `type` other than `object`. -/
theorem record_of_typedProperties {properties : Entries Json} {typed : Entries FieldType}
    (hs : s.get? name = some d) (htype : ¬ d.IsBare) (hp : d.properties? = some properties)
    (htyped : typedProperties properties = .ok typed) :
    s.record name = .ok ⟨name, .fields (fieldsOf typed)⟩ := by
  rw [record_of_shape hs (Shape.ofDefinition?_of_properties htype hp), body, htyped]
  rfl

/-- **A composition takes the fields of records that have properties.**  The keys of these are keys
of the composed record.  If the `type` of such a base is missing or `object`, the base is a field
container by itself, and all its fields have their keys in the composed record; with any other
`type` it is a bare type by itself. -/
theorem base_of_composition (hs : s.get? name = some d)
    (hshape : Shape.ofDefinition? d = some (.composed members)) (h : s.record name = .ok r)
    (hmember : member ∈ members) (hown : member.properties? = none)
    (hbase : member.reference? = some base) :
    ∃ definition properties, s.get? base = some definition ∧
      definition.properties? = some properties ∧
      (∀ key ∈ properties.keys, key ∈ r.fields.map Field.key) ∧
      (¬ definition.IsBare →
        Shape.ofDefinition? definition = some (.fields properties) ∧
        ∃ fs, s.record base = .ok ⟨base, .fields fs⟩ ∧
          ∀ f ∈ fs, f.key ∈ r.fields.map Field.key) ∧
      (definition.IsBare → Shape.ofDefinition? definition = some (.bare definition)) := by
  obtain ⟨typed, hcontribution, hkeys⟩ := exists_contribution hs hshape h hmember
  obtain ⟨properties, hsupplies, htyped⟩ := supplies_of_contribution hcontribution
  cases hsupplies with
  | own hp => cases hown.symm.trans hp
  | nothing _ hr => cases hbase.symm.trans hr
  | @base base' definition _ _ hr hsbase hp =>
    obtain rfl := Option.some.inj (hbase.symm.trans hr)
    refine ⟨definition, properties, hsbase, hp, ?_, fun htype => ⟨?_, fieldsOf typed, ?_, ?_⟩,
      Shape.ofDefinition?_of_bare⟩
    · rwa [← keys_of_typedProperties htyped]
    · exact Shape.ofDefinition?_of_properties htype hp
    · exact record_of_typedProperties hsbase htype hp htyped
    · intro f hf
      exact hkeys f.key (mem_keys_fieldsOf.1 (List.mem_map_of_mem hf))

/-- The fields of `Item` are fields of `Parcel`, though one of them has another type there. -/
theorem parcels_base : ∃ fs, parcels.record "Item" = .ok ⟨"Item", .fields fs⟩ ∧
    ∀ f ∈ fs, f.key ∈ ["id", "tag", "weight"] := by
  have hrecord : parcels.record "Parcel" = .ok ⟨"Parcel", .fields
      [⟨"id", .integer .unspecified, true⟩, ⟨"tag", .record "Tag", true⟩,
        ⟨"weight", .boolean, true⟩]⟩ := by with_unfolding_all rfl
  have hbase : (Json.obj [("$ref", .str "#/definitions/Item")]).reference? = some "Item" := rfl
  obtain ⟨definition, properties, hs, _, _, hcontainer, _⟩ :=
    base_of_composition (s := parcels) rfl rfl hrecord List.mem_cons_self rfl hbase
  obtain rfl := Option.some.inj hs
  refine (hcontainer ?_).2
  rintro ⟨kind, htype, _⟩
  cases htype

/-- `Label` is a string, and has properties nevertheless. -/
def labels : Schema := ofList
  [("Label", .obj [("type", .str "string"),
      ("properties", .obj [("text", .obj [("type", .str "string")])])]),
   ("Parcel", .obj [("allOf", .arr [.obj [("$ref", .str "#/definitions/Label")]])])]

/-- **A bare type can be a base**: `Parcel` is composed of `Label` and has its property as a field,
but `Label` itself is the wrapper of a string. -/
theorem labels_base_is_bare :
    (∃ d member, labels.get? "Parcel" = some d ∧
      Shape.ofDefinition? d = some (.composed [member]) ∧ member.properties? = none ∧
      member.reference? = some "Label") ∧
    labels.record "Parcel" = .ok ⟨"Parcel", .fields [⟨"text", .string, true⟩]⟩ ∧
    labels.record "Label" = .ok ⟨"Label", .wrapper .string⟩ ∧
    ∃ definition, labels.get? "Label" = some definition ∧
      Shape.ofDefinition? definition = some (.bare definition) := by
  refine ⟨⟨_, _, rfl, rfl, rfl, rfl⟩, ?_, ?_, _, rfl, rfl⟩
  · with_unfolding_all rfl
  · with_unfolding_all rfl

end SchemaCompiler.Schema
