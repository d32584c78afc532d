import Mathlib.Data.Option.Defs
import SchemaCompiler.Proofs.Compile

/-!
# The spelling of references

A reference is read for its target and for nothing else.  `Json.Respelled` relates values that
differ in the spelling of references, and `Schema.Respelled` schemas with such definitions.  Two
such schemas have the same order of emission and the same plan (`Schema.spelling_immaterial`).

References are read in three places, and for each of them there is a statement that it sees no
difference: the walk through a value (`Json.Respelled.references_eq`), the type of a field
(`FieldType.alike_ofDefinition`) and the members of a composition (`Schema.alike_contribution`).  A
definition that is refused is quoted as it is spelled, so errors can differ in that.  `Alike` is the
relation between two outcomes that allows for it, and the two runs are compared step by step.
-/

theorem Option.Rel.bind {α β α' β' : Type} {R : α → α' → Prop} {S : β → β' → Prop}
    {x : Option α} {x' : Option α'} {f : α → Option β} {f' : α' → Option β'}
    (h : Option.Rel R x x') (hf : ∀ a a', R a a' → Option.Rel S (f a) (f' a')) :
    Option.Rel S (x.bind f) (x'.bind f') := by
  cases h with
  | none => exact .none
  | some ha => exact hf _ _ ha

namespace SchemaCompiler

/-! ### Values that differ in spelling -/

namespace Json

mutual

/-- The same value, references being spelled differently at any number of places. -/
inductive Respelled : Json → Json → Prop
  | same (j : Json) : Respelled j j
  | arr {items items' : List Json} (h : List.Forall₂ Respelled items items') :
      Respelled (arr items) (arr items')
  | obj {entries entries' : List (String × Json)}
      (h : List.Forall₂ RespelledEntry entries entries') : Respelled (obj entries) (obj entries')

/-- The same entry of an object, references being spelled differently. -/
inductive RespelledEntry : String × Json → String × Json → Prop
  /-- The entry is a reference, and its target is the same. -/
  | reference {r r' : String} (h : Reference.target r = Reference.target r') :
      RespelledEntry ("$ref", str r) ("$ref", str r')
  | value {key : String} {j j' : Json} (h : Respelled j j') : RespelledEntry (key, j) (key, j')

end

variable {d d' : Json} {key : String}

theorem forall₂_respelledEntry_self (entries : List (String × Json)) :
    List.Forall₂ RespelledEntry entries entries :=
  List.forall₂_same.2 fun e _ => .value (.same e.2)

/-- A string that is no reference is spelled in one way. -/
theorem Respelled.asString?_eq (h : d.Respelled d') : d.asString? = d'.asString? := by
  cases h <;> rfl

theorem Respelled.asObject? (h : d.Respelled d') :
    Option.Rel (List.Forall₂ RespelledEntry) d.asObject? d'.asObject? := by
  cases h with
  | same =>
    cases d with
    | obj entries => exact .some (forall₂_respelledEntry_self entries)
    | _ => exact .none
  | arr _ => exact .none
  | obj h => exact .some h

theorem Respelled.asArray? (h : d.Respelled d') :
    Option.Rel (List.Forall₂ Respelled) d.asArray? d'.asArray? := by
  cases h with
  | same =>
    cases d with
    | arr items => exact .some (List.forall₂_same.2 fun item _ => .same item)
    | _ => exact .none
  | arr h => exact .some h
  | obj _ => exact .none

/-! ### Look-ups -/

/-- What stands under any other key than that of references. -/
theorem rel_get?_of_respelledEntries {entries entries' : List (String × Json)}
    (h : List.Forall₂ RespelledEntry entries entries') (hkey : key ≠ "$ref") :
    Option.Rel Respelled (Entries.get? entries key) (Entries.get? entries' key) := by
  induction h with
  | nil => exact .none
  | cons he _ ih =>
    rw [Entries.get?_cons, Entries.get?_cons]
    cases he with
    | reference _ => rwa [if_neg hkey.symm, if_neg hkey.symm]
    | @value key' j j' hj =>
      by_cases hk : key' = key
      · rw [if_pos hk, if_pos hk]
        exact .some hj
      · rwa [if_neg hk, if_neg hk]

theorem Respelled.get? (h : d.Respelled d') (hkey : key ≠ "$ref") :
    Option.Rel Respelled (d.get? key) (d'.get? key) := by
  cases h with
  | same =>
    cases d.get? key with
    | none => exact .none
    | some v => exact .some (.same v)
  | arr _ => exact .none
  | obj h => exact rel_get?_of_respelledEntries h hkey

theorem Respelled.getString?_eq (h : d.Respelled d') (hkey : key ≠ "$ref") :
    d.getString? key = d'.getString? key := by
  have hget := h.get? hkey
  rw [getString?, getString?]
  generalize d.get? key = v, d'.get? key = v' at hget
  cases hget with
  | none => rfl
  | some hv => exact hv.asString?_eq

theorem Respelled.properties? (h : d.Respelled d') :
    Option.Rel (List.Forall₂ RespelledEntry) d.properties? d'.properties? :=
  (h.get? (by decide)).bind fun _ _ hv => hv.asObject?

theorem Respelled.getArray? (h : d.Respelled d') (hkey : key ≠ "$ref") :
    Option.Rel (List.Forall₂ Respelled) (d.getArray? key) (d'.getArray? key) :=
  (h.get? hkey).bind fun _ _ hv => hv.asArray?

theorem Respelled.allowsObject_eq (h : d.Respelled d') : d.allowsObject = d'.allowsObject := by
  have hget := h.get? (show "type" ≠ "$ref" by decide)
  rw [allowsObject, allowsObject]
  generalize d.get? "type" = v, d'.get? "type" = v' at hget
  cases hget with
  | none => rfl
  | some hv => cases hv <;> rfl

/-! ### References -/

/-- A value is read as a reference to the same record. -/
theorem Respelled.reference?_eq (h : d.Respelled d') : d.reference? = d'.reference? := by
  cases h with
  | same => rfl
  | arr _ => rfl
  | obj h =>
    rw [reference?, reference?, getString?, getString?, Json.get?, Json.get?]
    induction h with
    | nil => rfl
    | cons he _ ih =>
      rw [Entries.get?_cons, Entries.get?_cons]
      cases he with
      | reference ht =>
        rw [if_pos rfl, if_pos rfl]
        exact congrArg some ht
      | @value key' j j' hj =>
        by_cases hk : key' = "$ref"
        · rw [if_pos hk, if_pos hk]
          exact congrArg (Option.map Reference.target) hj.asString?_eq
        · rwa [if_neg hk, if_neg hk]

theorem itemReferences_congr {items items' : List Json}
    (h : List.Forall₂ (fun j j' => j.references = j'.references) items items') :
    itemReferences items = itemReferences items' := by
  induction h with
  | nil => rfl
  | cons hj _ ih => rw [itemReferences, itemReferences, hj, ih]

theorem entryReferences_congr {entries entries' : Entries Json}
    (h : List.Forall₂ (fun e e' => entryReference e.1 e.2 = entryReference e'.1 e'.2 ∧
      e.2.references = e'.2.references) entries entries') :
    entryReferences entries = entryReferences entries' := by
  induction h with
  | nil => rfl
  | cons he _ ih => rw [entryReferences, entryReferences, he.1, he.2, ih]

/-- **The walk through a value meets the same targets in the same order.** -/
theorem Respelled.references_eq {d d' : Json} (h : d.Respelled d') :
    d.references = d'.references := by
  cases h with
  | same => rfl
  | @arr items items' h =>
    rw [references, references]
    have hmem := (List.forall₂_and_left items items').2 ⟨fun item hitem => hitem, h⟩
    refine itemReferences_congr (hmem.imp fun item item' hi => ?_)
    obtain ⟨hitem, hi⟩ := hi
    exact hi.references_eq
  | @obj entries entries' h =>
    rw [references, references]
    have hmem := (List.forall₂_and_left entries entries').2 ⟨fun e he => he, h⟩
    refine entryReferences_congr (hmem.imp fun e e' he => ?_)
    obtain ⟨hentry, he⟩ := he
    cases he with
    | reference ht => exact ⟨congrArg (fun target => [target]) ht, rfl⟩
    | value hj => exact ⟨by cases hj <;> rfl, hj.references_eq⟩
termination_by sizeOf d
decreasing_by
  · exact sizeOf_lt_arr hitem
  · exact sizeOf_lt_obj hentry

end Json

/-! ### Outcomes that differ in spelling -/

/-- The same kind of error, about the same records.  Definitions that are quoted may differ. -/
inductive Error.SameCause : Error → Error → Prop
  | same (e : Error) : SameCause e e
  | unknownFieldKind (d d' : Json) : SameCause (.unknownFieldKind d) (.unknownFieldKind d')
  | missingNumberFormat (d d' : Json) :
      SameCause (.missingNumberFormat d) (.missingNumberFormat d')
  | missingArrayItems (d d' : Json) : SameCause (.missingArrayItems d) (.missingArrayItems d')

/-- Both outcomes are results, and related, or both are errors of the same cause. -/
inductive Alike {α α' : Type} (R : α → α' → Prop) : Except Error α → Except Error α' → Prop
  | ok {a : α} {a' : α'} (h : R a a') : Alike R (.ok a) (.ok a')
  | error {e e' : Error} (h : e.SameCause e') : Alike R (.error e) (.error e')

namespace Alike

variable {α α' β β' : Type} {R : α → α' → Prop} {S : β → β' → Prop} {x : Except Error α}
  {x' : Except Error α'}

theorem refl (x : Except Error α) : Alike Eq x x := by
  cases x with
  | ok a => exact .ok rfl
  | error e => exact .error (.same e)

theorem bind {f : α → Except Error β} {f' : α' → Except Error β'} (h : Alike R x x')
    (hf : ∀ a a', R a a' → Alike S (f a) (f' a')) : Alike S (x >>= f) (x' >>= f') := by
  cases h with
  | ok ha => exact hf _ _ ha
  | error he => exact .error he

/-- Equal results stay equal. -/
theorem map {x x' : Except Error α} {f : α → β} (h : Alike Eq x x') :
    Alike Eq (x.map f) (x'.map f) := by
  cases h with
  | ok ha => exact .ok (congrArg f ha)
  | error he => exact .error he

/-- Steps that are alike one by one are alike as a whole. -/
theorem mapM {γ γ' : Type} {f : γ → Except Error α} {f' : γ' → Except Error α} {xs : List γ}
    {xs' : List γ'} (h : List.Forall₂ (fun x x' => Alike Eq (f x) (f' x')) xs xs') :
    Alike Eq (xs.mapM f) (xs'.mapM f') := by
  induction h with
  | nil => exact .refl _
  | cons hx _ ih =>
    rw [List.mapM_cons, List.mapM_cons]
    refine hx.bind fun y y' hy => ih.bind fun ys ys' hys => ?_
    rw [hy, hys]
    exact .refl _

end Alike

/-! ### Fields -/

/-- Definitions of the same `type` are alike if the keys that belong to it are. -/
theorem FieldType.alike_of_type_eq {d d' : Json} (htype : d.get? "type" = d'.get? "type")
    (hformat : d.getString? "format" = d'.getString? "format")
    (href : d.reference? = d'.reference?)
    (hitems : Option.Rel (fun item item' => Alike Eq (ofDefinition item) (ofDefinition item'))
      (d.get? "items") (d'.get? "items")) :
    Alike Eq (ofDefinition d) (ofDefinition d') := by
  rw [ofDefinition.eq_def d, ofDefinition.eq_def d', htype, hformat, href]
  split
  · cases d'.reference? with
    | none => exact .error (.unknownFieldKind d d')
    | some _ => exact .refl _
  · exact .refl _
  · cases d'.getString? "format" with
    | none => exact .error (.missingNumberFormat d d')
    | some _ => exact .refl _
  · exact .refl _
  · exact .refl _
  · -- Both matches keep their look-up as a proof, so each of them is split.
    split
    · next item hitem =>
      rw [hitem] at hitems
      split
      · next item' hitem' =>
        rw [hitem'] at hitems
        cases hitems with
        | some h => exact h.map
      · next hitem' =>
        rw [hitem'] at hitems
        cases hitems
    · next hitem =>
      rw [hitem] at hitems
      split
      · next item' hitem' =>
        rw [hitem'] at hitems
        cases hitems
      · exact .error (.missingArrayItems d d')
  · exact .refl _
  · exact .error (.unknownFieldKind d d')

/-- **A field has the same type, however the references in its definition are spelled.** -/
theorem FieldType.alike_ofDefinition {d d' : Json} (h : d.Respelled d') :
    Alike Eq (ofDefinition d) (ofDefinition d') := by
  have hitems : Option.Rel (fun item item' => Alike Eq (ofDefinition item) (ofDefinition item'))
      (d.get? "items") (d'.get? "items") := by
    have hget := h.get? (show "items" ≠ "$ref" by decide)
    generalize hitem : d.get? "items" = item, d'.get? "items" = item' at hget
    cases hget with
    | none => exact .none
    | some hi => exact .some (alike_ofDefinition hi)
  have hsame : d.get? "type" = d'.get? "type" → Alike Eq (ofDefinition d) (ofDefinition d') :=
    fun ht => alike_of_type_eq ht (h.getString?_eq (by decide)) h.reference?_eq hitems
  have htype := h.get? (show "type" ≠ "$ref" by decide)
  generalize ht : d.get? "type" = type, ht' : d'.get? "type" = type' at htype
  cases htype with
  | none => exact hsame (ht.trans ht'.symm)
  | some hv =>
    cases hv with
    | same _ => exact hsame (ht.trans ht'.symm)
    -- A `type` in which something is respelled is no string, and both definitions are refused.
    | arr _ =>
      rw [ofDefinition.eq_def d, ofDefinition.eq_def d', ht, ht']
      exact .error (.unknownFieldKind d d')
    | obj _ =>
      rw [ofDefinition.eq_def d, ofDefinition.eq_def d', ht, ht']
      exact .error (.unknownFieldKind d d')
termination_by sizeOf d
decreasing_by exact Json.sizeOf_lt_of_get? hitem

/-- Properties have the same types. -/
theorem alike_typedProperties {properties properties' : Entries Json}
    (h : List.Forall₂ Json.RespelledEntry properties properties') :
    Alike Eq (typedProperties properties) (typedProperties properties') := by
  refine Alike.mapM (h.imp fun p p' hp => ?_)
  cases hp with
  | @reference r r' _ =>
    -- A string under the key of references describes no field.
    have hstring : ∀ text, FieldType.ofDefinition (.str text) =
        .error (.unknownFieldKind (.str text)) := by
      intro text
      rw [FieldType.ofDefinition.eq_def]
      rfl
    rw [hstring, hstring]
    exact .error (.unknownFieldKind (.str r) (.str r'))
  | value hj => exact (FieldType.alike_ofDefinition hj).map

/-! ### Records -/

/-- The same shape, references being spelled differently. -/
inductive Shape.Respelled : Shape → Shape → Prop
  | bare {d d' : Json} (h : d.Respelled d') : Respelled (.bare d) (.bare d')
  | fields {properties properties' : Entries Json}
      (h : List.Forall₂ Json.RespelledEntry properties properties') :
      Respelled (.fields properties) (.fields properties')
  | composed {members members' : List Json} (h : List.Forall₂ Json.Respelled members members') :
      Respelled (.composed members) (.composed members')

theorem Json.Respelled.shape {d d' : Json} (h : d.Respelled d') :
    Option.Rel Shape.Respelled (Shape.ofDefinition? d) (Shape.ofDefinition? d') := by
  rw [Shape.ofDefinition?, Shape.ofDefinition?, h.allowsObject_eq]
  split
  · have hproperties := h.properties?
    generalize d.properties? = properties, d'.properties? = properties' at hproperties
    cases hproperties with
    | some hp => exact .some (.fields hp)
    | none =>
      have hmembers := h.getArray? (show "allOf" ≠ "$ref" by decide)
      generalize d.getArray? "allOf" = members, d'.getArray? "allOf" = members' at hmembers
      cases hmembers with
      | none => exact .none
      | some hm => exact .some (.composed hm)
  · exact .some (.bare h)

namespace Schema

/-- The same records in the same order, references being spelled differently in their definitions.
-/
def Respelled (s s' : Schema) : Prop :=
  List.Forall₂ (fun record record' => record.1 = record'.1 ∧ record.2.Respelled record'.2)
    s.records s'.records

variable {s s' : Schema} {name record : String}

theorem Respelled.get? (h : s.Respelled s') (name : String) :
    Option.Rel Json.Respelled (s.get? name) (s'.get? name) := by
  rw [Schema.get?, Schema.get?]
  rw [Respelled] at h
  generalize s.records = records, s'.records = records' at h
  induction h with
  | nil => exact .none
  | @cons record record' _ _ hr _ ih =>
    rw [Entries.get?_cons, Entries.get?_cons, ← hr.1]
    by_cases hn : record.1 = name
    · rw [if_pos hn, if_pos hn]
      exact .some hr.2
    · rwa [if_neg hn, if_neg hn]

/-- What is read off each record, and sees no spelling, is the same all along the schema. -/
theorem Respelled.map_records_eq {β : Type} {f : String × Json → β} (h : s.Respelled s')
    (hf : ∀ name d d', d.Respelled d' → f (name, d) = f (name, d')) :
    s.records.map f = s'.records.map f := by
  rw [← List.forall₂_eq_eq_eq, List.forall₂_map_left_iff, List.forall₂_map_right_iff]
  refine h.imp fun record record' hr => ?_
  obtain ⟨name, d⟩ := record
  obtain ⟨name', d'⟩ := record'
  obtain rfl : name = name' := hr.1
  exact hf name d d' hr.2

theorem Respelled.names_eq (h : s.Respelled s') : s.names = s'.names :=
  h.map_records_eq fun _ _ _ _ => rfl

theorem Respelled.allReferences_eq (h : s.Respelled s') : s.allReferences = s'.allReferences := by
  have hreferences : s.records.map (fun record => record.2.references) =
      s'.records.map fun record => record.2.references :=
    h.map_records_eq fun _ _ _ hd => hd.references_eq
  rw [allReferences, allReferences, List.flatMap_def, List.flatMap_def, hreferences]

theorem alike_resolve (h : s.Respelled s') (name : String) :
    Alike Json.Respelled (s.resolve name) (s'.resolve name) := by
  have hget := h.get? name
  rw [resolve, resolve]
  generalize s.get? name = d, s'.get? name = d' at hget
  cases hget with
  | none => exact .error (.same _)
  | some hd => exact .ok hd

/-- **A member contributes the same fields.** -/
theorem alike_contribution {member member' : Json} (h : s.Respelled s')
    (hmember : member.Respelled member') :
    Alike Eq (s.contribution record member) (s'.contribution record member') := by
  have hproperties := hmember.properties?
  rw [contribution, contribution, hmember.reference?_eq]
  generalize member.properties? = properties, member'.properties? = properties' at hproperties
  cases hproperties with
  | some hp => exact alike_typedProperties hp
  | none =>
    cases member'.reference? with
    | none => exact .refl _
    | some base =>
      refine (alike_resolve h base).bind fun d d' hd => ?_
      have hproperties := hd.properties?
      generalize d.properties? = properties, d'.properties? = properties' at hproperties
      cases hproperties with
      | none => exact .refl _
      | some hp => exact alike_typedProperties hp

theorem alike_body {shape shape' : Shape} (h : s.Respelled s') (hshape : shape.Respelled shape') :
    Alike Eq (s.body record shape) (s'.body record shape') := by
  cases hshape with
  | bare hd => exact (FieldType.alike_ofDefinition hd).map
  | fields hp => exact (alike_typedProperties hp).map
  | composed hm =>
    exact (Alike.mapM (hm.imp fun _ _ hmember => alike_contribution h hmember)).map

theorem alike_record (h : s.Respelled s') (name : String) :
    Alike Eq (s.record name) (s'.record name) := by
  refine (alike_resolve h name).bind fun d d' hd => ?_
  have hshape := hd.shape
  generalize Shape.ofDefinition? d = shape, Shape.ofDefinition? d' = shape' at hshape
  cases hshape with
  | none => exact .refl _
  | some hs =>
    refine (alike_body h hs).bind fun body body' hbody => ?_
    rw [hbody]
    exact .refl _

/-! ### The order of emission -/

/-- A visit depends on the targets that each record refers to, and on nothing else. -/
theorem visit_congr (h : ∀ name, (s.get? name).map Json.references =
    (s'.get? name).map Json.references) (trail done : List String) (name : String) :
    s.visit trail done name = s'.visit trail done name := by
  induction trail, done, name using visit.induct s with
  | case1 trail done name hd => rw [visit, if_pos hd, visit, if_pos hd]
  | case2 trail done name hd ht =>
    rw [visit, if_neg hd, dif_pos ht, visit, if_neg hd, dif_pos ht]
  | case3 trail done name hd ht hs =>
    have hs' : s'.get? name = none := by
      have hname := h name
      rw [hs] at hname
      exact Option.map_eq_none_iff.1 hname.symm
    rw [visit_of_missing hd ht hs, visit_of_missing hd ht hs']
  | case4 trail done name hd ht definition hs ih =>
    have hname := h name
    rw [hs] at hname
    obtain ⟨definition', hs', hreferences⟩ := Option.map_eq_some_iff.1 hname.symm
    rw [visit_of_get? hd ht hs, visit_of_get? hd ht hs', hreferences]
    simp only [ih]

theorem emissionOrder_eq_of_respelled (h : s.Respelled s') :
    s.emissionOrder = s'.emissionOrder := by
  have hreferences : ∀ name, (s.get? name).map Json.references =
      (s'.get? name).map Json.references := by
    intro name
    have hget := h.get? name
    generalize s.get? name = d, s'.get? name = d' at hget
    cases hget with
    | none => rfl
    | some hd => exact congrArg some hd.references_eq
  rw [emissionOrder, emissionOrder, referenced_eq, referenced_eq, h.allReferences_eq, h.names_eq]
  simp only [visit_congr hreferences]

/-! ### Plans -/

theorem alike_plan (h : s.Respelled s') : Alike Eq s.plan s'.plan := by
  rw [plan, plan, emissionOrder_eq_of_respelled h]
  refine (Alike.refl s'.emissionOrder).bind fun order order' horder => ?_
  rw [horder]
  exact Alike.mapM (List.forall₂_same.2 fun name _ => alike_record h name)

/-- **The spelling of references decides nothing.**  Schemas that differ in it have the same order
of emission, or fail to have one with the same error.  They have the same plan, or neither has one,
and then for the same cause. -/
theorem spelling_immaterial (h : s.Respelled s') :
    s.emissionOrder = s'.emissionOrder ∧
    (∀ rs, s.plan = .ok rs ↔ s'.plan = .ok rs) ∧
    ∀ e e', s.plan = .error e → s'.plan = .error e' → e.SameCause e' := by
  refine ⟨emissionOrder_eq_of_respelled h, ?_⟩
  have hplan := alike_plan h
  generalize s.plan = outcome, s'.plan = outcome' at hplan
  cases hplan with
  | ok hrs =>
    rw [hrs]
    refine ⟨fun _ => Iff.rfl, fun e e' he => ?_⟩
    cases he
  | error hcause =>
    refine ⟨fun rs => by simp, fun e e' he he' => ?_⟩
    obtain rfl := Except.error.inj he
    obtain rfl := Except.error.inj he'
    exact hcause

/-- References by place, in a member and in a field. -/
def cartByPlace : Schema := ofList
  [("Cart", .obj [("allOf", .arr [
      .obj [("$ref", .str "#/definitions/Base")],
      .obj [("properties", .obj [("item", .obj [("$ref", .str "#/definitions/Item")])])]])]),
   ("Base", .obj [("properties", .obj [("id", .obj [("type", .str "string")])])]),
   ("Item", .obj [("type", .str "string")])]

/-- The same references, one of them verbatim and one by the other place. -/
def cartRespelled : Schema := ofList
  [("Cart", .obj [("allOf", .arr [
      .obj [("$ref", .str "Base")],
      .obj [("properties", .obj [("item", .obj [("$ref", .str "#/components/schemas/Item")])])]])]),
   ("Base", .obj [("properties", .obj [("id", .obj [("type", .str "string")])])]),
   ("Item", .obj [("type", .str "string")])]

/-- Both spellings of the member and of the field are read alike. -/
theorem cartByPlace_spelling_immaterial :
    cartByPlace.Respelled cartRespelled ∧
      cartRespelled.emissionOrder = .ok ["Base", "Item", "Cart"] ∧
      cartRespelled.plan = .ok
        [⟨"Base", .fields [⟨"id", .string, true⟩]⟩, ⟨"Item", .wrapper .string⟩,
         ⟨"Cart", .fields [⟨"id", .string, true⟩, ⟨"item", .record "Item", true⟩]⟩] := by
  have hreference : ∀ r r' : String, Reference.target r = Reference.target r' →
      (Json.obj [("$ref", .str r)]).Respelled (.obj [("$ref", .str r')]) :=
    fun _ _ h => .obj (.cons (.reference h) .nil)
  have hbase := hreference "#/definitions/Base" "Base" (by decide)
  have hitem := hreference "#/definitions/Item" "#/components/schemas/Item" (by decide)
  have hfields : (Json.obj [("properties", .obj [("item",
      .obj [("$ref", .str "#/definitions/Item")])])]).Respelled (.obj [("properties",
        .obj [("item", .obj [("$ref", .str "#/components/schemas/Item")])])]) :=
    .obj (.cons (.value (.obj (.cons (.value hitem) .nil))) .nil)
  have h : cartByPlace.Respelled cartRespelled := by
    refine .cons ⟨rfl, .obj (.cons (.value (.arr ?_)) .nil)⟩
      (List.forall₂_same.2 fun record _ => ⟨rfl, .same record.2⟩)
    exact .cons hbase (.cons hfields .nil)
  obtain ⟨horder, hplan, _⟩ := spelling_immaterial h
  refine ⟨h, horder ▸ ?_, (hplan _).1 ?_⟩
  · with_unfolding_all rfl
  · with_unfolding_all rfl

end Schema

end SchemaCompiler
