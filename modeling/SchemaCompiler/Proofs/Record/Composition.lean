import SchemaCompiler.Proofs.FirstOccurrence
import SchemaCompiler.Proofs.Record.Normalize

/-!
# Composed records

The fields of a composed record come from its members, one member after the other, and a key may
come more than once.  What a member contributes is said by `Schema.Contributes`, without regard to
what the other members contribute.  The main statement puts the members together:

* `Schema.composed_fields`: every key is a field once, at the place of its first occurrence among
  all contributions and with the type of its last one.
-/

namespace SchemaCompiler.Schema

variable {s : Schema} {record name : String} {member : Json} {properties : Entries Json}
  {typed : Entries FieldType}

/-! ### What members contribute -/

/-- The keys and types that a member of a composition contributes: those of the properties that it
brings in, in their order. -/
def Contributes (s : Schema) (member : Json) (typed : Entries FieldType) : Prop :=
  ∃ properties, s.Supplies member properties ∧
    List.Forall₂ (fun p field => field.1 = p.1 ∧ FieldType.ofDefinition p.2 = .ok field.2)
      properties typed

/-- Properties have types if each of them has one. -/
theorem typedProperties_eq_ok_iff : typedProperties properties = .ok typed ↔
    List.Forall₂ (fun p field => field.1 = p.1 ∧ FieldType.ofDefinition p.2 = .ok field.2)
      properties typed := by
  have hfield : ∀ (p : String × Json) (field : String × FieldType),
      ((FieldType.ofDefinition p.2).map fun type => (p.1, type)) = .ok field ↔
        field.1 = p.1 ∧ FieldType.ofDefinition p.2 = .ok field.2 := by
    intro p field
    rw [Except.map_eq_ok_iff]
    constructor
    · rintro ⟨type, htype, rfl⟩
      exact ⟨rfl, htype⟩
    · rintro ⟨hkey, htype⟩
      exact ⟨field.2, htype, Prod.ext hkey.symm rfl⟩
  rw [typedProperties, List.mapM_eq_ok_iff]
  simp only [hfield]

/-- A member brings in one list of properties only. -/
theorem Supplies.unique {properties' : Entries Json} (h : s.Supplies member properties)
    (h' : s.Supplies member properties') : properties' = properties := by
  cases h with
  | own h =>
    cases h' with
    | own h' => exact Option.some.inj (h'.symm.trans h)
    | base h' _ _ _ => cases h'.symm.trans h
    | nothing h' _ => cases h'.symm.trans h
  | base h hr hs hp =>
    cases h' with
    | own h' => cases h'.symm.trans h
    | base _ hr' hs' hp' =>
      obtain rfl := Option.some.inj (hr'.symm.trans hr)
      obtain rfl := Option.some.inj (hs'.symm.trans hs)
      exact Option.some.inj (hp'.symm.trans hp)
    | nothing _ hr' => cases hr'.symm.trans hr
  | nothing h hr =>
    cases h' with
    | own h' => cases h'.symm.trans h
    | base _ hr' _ _ => cases hr'.symm.trans hr
    | nothing _ _ => rfl

theorem Contributes.unique {typed' : Entries FieldType} (h : s.Contributes member typed)
    (h' : s.Contributes member typed') : typed' = typed := by
  obtain ⟨properties, hsupplies, htyped⟩ := h
  obtain ⟨properties', hsupplies', htyped'⟩ := h'
  obtain rfl := hsupplies.unique hsupplies'
  rw [← typedProperties_eq_ok_iff] at htyped htyped'
  exact Except.ok.inj (htyped'.symm.trans htyped)

theorem contributes_of_contribution (h : s.contribution record member = .ok typed) :
    s.Contributes member typed := by
  obtain ⟨properties, hsupplies, htyped⟩ := supplies_of_contribution h
  exact ⟨properties, hsupplies, typedProperties_eq_ok_iff.1 htyped⟩

/-! ### Fields -/

/-- A field has the type that its key comes with last. -/
theorem last_of_mem_fieldsOf {f : Field} (h : f ∈ fieldsOf typed) :
    f.required = true ∧ ∃ before after : Entries FieldType,
      typed = before ++ (f.key, f.type) :: after ∧ f.key ∉ after.keys := by
  obtain ⟨e, he, rfl⟩ := List.mem_map.1 h
  exact ⟨rfl, Entries.last_of_mem_ofList he⟩

/-- **A composed record has the keys of all its members, once each.**  Of all that the members
contribute, one after the other, a key takes the place of its first occurrence and the type of its
last.  Every field counts as required. -/
theorem composed_fields {definition : Json} {members : List Json} {r : Record}
    (hs : s.get? name = some definition)
    (hshape : Shape.ofDefinition? definition = some (.composed members))
    (h : s.record name = .ok r) :
    ∃ (parts : List (Entries FieldType)) (fs : List Field),
      List.Forall₂ (fun member part => ∀ typed, s.Contributes member typed ↔ typed = part)
        members parts ∧
      r = ⟨name, .fields fs⟩ ∧
      (fs.map Field.key).Nodup ∧
      fs.map Field.key = (Entries.keys parts.flatten).eraseDups ∧
      ∀ f ∈ fs, f.required = true ∧ ∃ before after : Entries FieldType,
        parts.flatten = before ++ (f.key, f.type) :: after ∧ f.key ∉ after.keys := by
  obtain ⟨definition', shape, body, hs', hshape', hbody, rfl⟩ := record_eq_ok_iff.1 h
  obtain rfl := Option.some.inj (hs.symm.trans hs')
  obtain rfl := Option.some.inj (hshape.symm.trans hshape')
  obtain ⟨parts, hparts, rfl⟩ := Except.map_eq_ok_iff.1 hbody
  rw [List.mapM_eq_ok_iff] at hparts
  refine ⟨parts, fieldsOf parts.flatten, hparts.imp fun member part hpart typed => ?_, rfl, ?_, ?_,
    fun f hf => last_of_mem_fieldsOf hf⟩
  · have hcontributes := contributes_of_contribution hpart
    exact ⟨hcontributes.unique, fun heq => heq ▸ hcontributes⟩
  · rw [keys_fieldsOf]
    exact Entries.keys_nodup_ofList _
  · rw [keys_fieldsOf, Entries.keys_ofList]

/-- `Parcel` takes two fields from its base and gives one of them another type, after a member that
contributes nothing. -/
def parcels : Schema := ofList
  [("Parcel", .obj [("allOf", .arr [
      .obj [("$ref", .str "#/definitions/Item")],
      .obj [("required", .arr [.str "id"])],
      .obj [("properties", .obj [("weight", .obj [("type", .str "boolean")]),
        ("id", .obj [("type", .str "integer")])])]])]),
   ("Item", .obj [("properties", .obj [("id", .obj [("type", .str "string")]),
      ("tag", .obj [("$ref", .str "Tag")])])])]

/-- The key `id` stays first and has the type of the last member. -/
theorem parcels_composed_fields :
    parcels.record "Parcel" = .ok ⟨"Parcel", .fields [⟨"id", .integer .unspecified, true⟩,
        ⟨"tag", .record "Tag", true⟩, ⟨"weight", .boolean, true⟩]⟩ ∧
      ["id", "tag", "weight"] = (Entries.keys [("id", FieldType.string), ("tag", .record "Tag"),
        ("weight", .boolean), ("id", .integer .unspecified)]).eraseDups := by
  have h : parcels.record "Parcel" = .ok ⟨"Parcel", .fields [⟨"id", .integer .unspecified, true⟩,
      ⟨"tag", .record "Tag", true⟩, ⟨"weight", .boolean, true⟩]⟩ := by with_unfolding_all rfl
  have hfirst : parcels.contribution "Parcel" (.obj [("$ref", .str "#/definitions/Item")]) =
      .ok [("id", .string), ("tag", .record "Tag")] := by with_unfolding_all rfl
  have hlast : parcels.contribution "Parcel" (.obj [("properties", .obj
      [("weight", .obj [("type", .str "boolean")]), ("id", .obj [("type", .str "integer")])])]) =
      .ok [("weight", .boolean), ("id", .integer .unspecified)] := by with_unfolding_all rfl
  obtain ⟨parts, fs, hparts, hr, _, hkeys, _⟩ := composed_fields (s := parcels) rfl rfl h
  obtain rfl := RecordBody.fields.inj (congrArg Record.body hr)
  -- Three members have three parts, each of which is determined by what its member contributes.
  obtain _ | ⟨hbase, _ | ⟨hskipped, _ | ⟨hown, _ | _⟩⟩⟩ := hparts
  obtain rfl := (hbase _).1 (contributes_of_contribution hfirst)
  obtain rfl := (hskipped _).1 ⟨[], .nothing rfl rfl, .nil⟩
  obtain rfl := (hown _).1 (contributes_of_contribution hlast)
  exact ⟨h, hkeys⟩

end SchemaCompiler.Schema
