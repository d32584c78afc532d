import SchemaCompiler.Proofs.Record.Normalize

/-!
# Which definitions are records

The grammar of the definitions that can be normalised, and what is wrong with all others, said of
the keys of a definition alone: `Json.IsField` and `Json.FieldFault` for fields, `Schema.IsMember`
and `Schema.MemberFault` for the members of a composition, `Json.IsRecord` and `Schema.RecordFault`
for records.  At each of these levels the same three facts are proved: what is in the grammar
succeeds, what has a fault fails with it, and everything is in the grammar or has a fault.  By
`Except.SettledBy.intro` they determine the outcome.

* `Schema.record_settled_by_grammar`: a record can be normalised exactly if its definition is in the
  grammar, and otherwise the error is that of the first fault in document order.
-/

namespace Except

variable {ε α β : Type}

/-- A computation succeeds exactly on a condition, and otherwise fails with the fault there is. -/
structure SettledBy (x : Except ε α) (Sound : Prop) (Fault : ε → Prop) : Prop where
  ok_iff : (∃ a, x = .ok a) ↔ Sound
  error_iff (e : ε) : x = .error e ↔ Fault e

namespace SettledBy

variable {x : Except ε α} {Sound : Prop} {Fault : ε → Prop}

/-- Where there is always either soundness or a fault, the two need not be shown to exclude each
other. -/
theorem intro (hsound : Sound → ∃ a, x = .ok a) (hfault : ∀ e, Fault e → x = .error e)
    (htotal : Sound ∨ ∃ e, Fault e) : x.SettledBy Sound Fault where
  ok_iff := by
    refine ⟨fun ⟨a, ha⟩ => htotal.resolve_right fun ⟨e, he⟩ => ?_, hsound⟩
    cases ha.symm.trans (hfault e he)
  error_iff e := by
    refine ⟨fun hx => ?_, hfault e⟩
    rcases htotal with h | ⟨e', he'⟩
    · obtain ⟨a, ha⟩ := hsound h
      cases ha.symm.trans hx
    · cases (hfault e' he').symm.trans hx
      exact he'

theorem total (h : x.SettledBy Sound Fault) : Sound ∨ ∃ e, Fault e := by
  cases x with
  | ok a => exact .inl (h.ok_iff.1 ⟨a, rfl⟩)
  | error e => exact .inr ⟨e, (h.error_iff e).1 rfl⟩

theorem map (h : x.SettledBy Sound Fault) (f : α → β) : (x.map f).SettledBy Sound Fault where
  ok_iff := by
    rw [← h.ok_iff]
    cases x <;> simp [Except.map]
  error_iff e := by rw [map_eq_error_iff, h.error_iff]

end SettledBy

end Except

namespace SchemaCompiler

/-- The first element with a fault, after elements that are sound. -/
def FirstFault {α : Type} (Sound : α → Prop) (Fault : α → Error → Prop) (xs : List α)
    (e : Error) : Prop :=
  ∃ before x after, xs = before ++ x :: after ∧ (∀ b ∈ before, Sound b) ∧ Fault x e

/-- Steps one after the other succeed if each does, and fail as the first one that fails. -/
theorem settledBy_mapM {α β : Type} {Sound : α → Prop} {Fault : α → Error → Prop}
    {f : α → Except Error β} (h : ∀ x, (f x).SettledBy (Sound x) (Fault x)) (xs : List α) :
    (xs.mapM f).SettledBy (∀ x ∈ xs, Sound x) (FirstFault Sound Fault xs) where
  ok_iff := by simp only [List.exists_mapM_eq_ok_iff, (h _).ok_iff]
  error_iff e := by
    simp only [List.mapM_eq_error_iff, (h _).ok_iff, (h _).error_iff]
    rfl

/-- The type of an array is that of its items with one more array around it, and so is its error. -/
theorem FieldType.ofDefinition_of_items {d items : Json}
    (htype : d.get? "type" = some (.str "array")) (hitems : d.get? "items" = some items) :
    ofDefinition d = (ofDefinition items).map .array := by
  rw [ofDefinition]
  simp only [htype]
  split
  · next items' h =>
    rw [hitems] at h
    rw [Option.some.inj h]
  · next h => cases hitems.symm.trans h

namespace Json

variable {d : Json} {e : Error}

/-! ### Keys of a definition -/

theorem getString?_eq_some_iff {key text : String} :
    d.getString? key = some text ↔ d.get? key = some (.str text) := by
  unfold getString?
  cases d.get? key with
  | none => simp
  | some v => cases v <;> simp [asString?]

theorem getString?_eq_none_iff {key : String} :
    d.getString? key = none ↔ ∀ text, d.get? key ≠ some (.str text) := by
  simp only [Option.eq_none_iff_forall_ne_some, ne_eq, getString?_eq_some_iff]

/-- The definition has a `type`, and that is not `object`. -/
def IsBare (d : Json) : Prop :=
  ∃ kind, d.get? "type" = some kind ∧ kind ≠ .str "object"

theorem allowsObject_eq_false_iff : d.allowsObject = false ↔ d.IsBare := by
  unfold allowsObject IsBare
  split
  · next h => simp [h]
  · next h => simp [h]
  · next kind hkind h =>
    simp only [h, Option.some.injEq, exists_eq_left', true_iff]
    rintro rfl
    exact hkind rfl

theorem allowsObject_eq_true_iff : d.allowsObject = true ↔ ¬ d.IsBare := by
  rw [← allowsObject_eq_false_iff, Bool.not_eq_false]

/-! ### Fields -/

/-- The kinds of fields that need nothing besides their `type`. -/
def plainKinds : List String :=
  ["string", "integer", "boolean", "object"]

/-- The definitions of fields. -/
inductive IsField : Json → Prop
  | plain {d : Json} {kind : String} (htype : d.get? "type" = some (.str kind))
      (h : kind ∈ plainKinds) : IsField d
  | number {d : Json} {format : String} (htype : d.get? "type" = some (.str "number"))
      (h : d.get? "format" = some (.str format)) : IsField d
  | array {d items : Json} (htype : d.get? "type" = some (.str "array"))
      (hitems : d.get? "items" = some items) (h : IsField items) : IsField d
  | reference {d : Json} {r : String} (htype : d.get? "type" = none)
      (h : d.get? "$ref" = some (.str r)) : IsField d

/-- What is wrong with a definition that is not one of a field.  The fault of an array is that of
its items. -/
inductive FieldFault : Json → Error → Prop
  | untyped {d : Json} (htype : d.get? "type" = none) (h : ∀ r, d.get? "$ref" ≠ some (.str r)) :
      FieldFault d (.unknownFieldKind d)
  | kind {d kind : Json} (htype : d.get? "type" = some kind)
      (h : ∀ k ∈ "number" :: "array" :: plainKinds, kind ≠ .str k) :
      FieldFault d (.unknownFieldKind d)
  | format {d : Json} (htype : d.get? "type" = some (.str "number"))
      (h : ∀ format, d.get? "format" ≠ some (.str format)) : FieldFault d (.missingNumberFormat d)
  | items {d : Json} (htype : d.get? "type" = some (.str "array")) (h : d.get? "items" = none) :
      FieldFault d (.missingArrayItems d)
  | item {d items : Json} {e : Error} (htype : d.get? "type" = some (.str "array"))
      (hitems : d.get? "items" = some items) (h : FieldFault items e) : FieldFault d e

theorem IsField.exists_type (h : d.IsField) : ∃ type, FieldType.ofDefinition d = .ok type := by
  induction h with
  | plain htype h =>
    simp only [plainKinds, List.mem_cons, List.not_mem_nil, or_false] at h
    rcases h with rfl | rfl | rfl | rfl <;> (rw [FieldType.ofDefinition]; simp [htype])
  | number htype h =>
    rw [FieldType.ofDefinition]
    simp [htype, getString?_eq_some_iff.2 h]
  | array htype hitems _ ih =>
    obtain ⟨type, ih⟩ := ih
    exact ⟨.array type, by rw [FieldType.ofDefinition_of_items htype hitems, ih]; rfl⟩
  | @reference d r htype h =>
    have hr : d.reference? = some (Reference.target r) :=
      Option.map_eq_some_iff.2 ⟨r, getString?_eq_some_iff.2 h, rfl⟩
    rw [FieldType.ofDefinition]
    simp [htype, hr]

theorem FieldFault.ofDefinition_eq (h : d.FieldFault e) : FieldType.ofDefinition d = .error e := by
  induction h with
  | @untyped d htype h =>
    have hr : d.reference? = none := Option.map_eq_none_iff.2 (getString?_eq_none_iff.2 h)
    rw [FieldType.ofDefinition]
    simp [htype, hr]
  | kind htype h =>
    simp only [plainKinds, List.forall_mem_cons, List.not_mem_nil] at h
    rw [FieldType.ofDefinition, htype]
    split <;> simp_all
  | format htype h =>
    rw [FieldType.ofDefinition]
    simp [htype, getString?_eq_none_iff.2 h]
  | items htype h =>
    rw [FieldType.ofDefinition]
    simp only [htype]
    split
    · next hitems => cases h.symm.trans hitems
    · rfl
  | item htype hitems _ ih =>
    rw [FieldType.ofDefinition_of_items htype hitems, ih]
    rfl

theorem FieldFault.ne_unhandledRecordShape (h : d.FieldFault e) (record : String) :
    e ≠ .unhandledRecordShape record := by
  induction h with
  | item _ _ _ ih => exact ih
  | untyped | kind | format | items => exact nofun

/-- Every definition is one of a field or has a fault. -/
theorem isField_or_fault (d : Json) : d.IsField ∨ ∃ e, d.FieldFault e := by
  -- One case for each branch of the typing of fields; only items lead further down.
  fun_induction FieldType.ofDefinition d with
  | case1 d htype target hr =>
    obtain ⟨r, hr, _⟩ := Option.map_eq_some_iff.1 hr
    exact .inl (.reference htype (getString?_eq_some_iff.1 hr))
  | case2 d htype hr =>
    have hnone := Option.map_eq_none_iff.1 hr
    exact .inr ⟨_, .untyped htype (getString?_eq_none_iff.1 hnone)⟩
  | case3 d htype | case6 d htype | case7 d htype | case10 d htype =>
    exact .inl (.plain htype (by simp [plainKinds]))
  | case4 d htype format h => exact .inl (.number htype (getString?_eq_some_iff.1 h))
  | case5 d htype h => exact .inr ⟨_, .format htype (getString?_eq_none_iff.1 h)⟩
  | case8 d htype items hitems ih =>
    rcases ih with h | ⟨e, h⟩
    · exact .inl (.array htype hitems h)
    · exact .inr ⟨e, .item htype hitems h⟩
  | case9 d htype h => exact .inr ⟨_, .items htype h⟩
  | case11 d kind hstring hnumber hinteger hboolean harray hobject htype =>
    refine .inr ⟨_, .kind htype ?_⟩
    simp only [plainKinds, List.forall_mem_cons]
    exact ⟨hnumber, harray, hstring, hinteger, hboolean, hobject, List.forall_mem_nil _⟩

theorem settledBy_ofDefinition (d : Json) :
    (FieldType.ofDefinition d).SettledBy d.IsField d.FieldFault :=
  .intro IsField.exists_type (fun _ h => h.ofDefinition_eq) d.isField_or_fault

/-! ### Shapes -/

/-- No known shape applies to the definition. -/
def IsShapeless (d : Json) : Prop :=
  ¬ d.IsBare ∧ d.properties? = none ∧ d.getArray? "allOf" = none

/-- The definitions of records, where `Member` says which members a composition may have. -/
inductive IsRecord (Member : Json → Prop) (d : Json) : Prop
  | bare (htype : d.IsBare) (h : d.IsField)
  | fields {properties : Entries Json} (htype : ¬ d.IsBare) (hp : d.properties? = some properties)
      (h : ∀ p ∈ properties, p.2.IsField)
  | composed {members : List Json} (htype : ¬ d.IsBare) (hp : d.properties? = none)
      (hm : d.getArray? "allOf" = some members) (h : ∀ m ∈ members, Member m)

end Json

namespace Shape

variable {d : Json}

theorem ofDefinition?_of_bare (h : d.IsBare) : ofDefinition? d = some (.bare d) := by
  simp [ofDefinition?, Json.allowsObject_eq_false_iff.2 h]

theorem ofDefinition?_of_properties {properties : Entries Json} (h : ¬ d.IsBare)
    (hp : d.properties? = some properties) : ofDefinition? d = some (.fields properties) := by
  simp [ofDefinition?, Json.allowsObject_eq_true_iff.2 h, hp]

theorem ofDefinition?_of_members {members : List Json} (h : ¬ d.IsBare)
    (hp : d.properties? = none) (hm : d.getArray? "allOf" = some members) :
    ofDefinition? d = some (.composed members) := by
  simp [ofDefinition?, Json.allowsObject_eq_true_iff.2 h, hp, hm]

theorem ofDefinition?_of_shapeless (h : d.IsShapeless) : ofDefinition? d = none := by
  obtain ⟨htype, hp, hm⟩ := h
  simp [ofDefinition?, Json.allowsObject_eq_true_iff.2 htype, hp, hm]

end Shape

/-! ### Properties -/

/-- The first property that is not a field, with what is wrong with it. -/
abbrev PropertyFault : Entries Json → Error → Prop :=
  FirstFault (fun p => p.2.IsField) fun p => p.2.FieldFault

theorem settledBy_typedProperties (properties : Entries Json) :
    (typedProperties properties).SettledBy (∀ p ∈ properties, p.2.IsField)
      (PropertyFault properties) :=
  settledBy_mapM (fun p => p.2.settledBy_ofDefinition.map _) properties

namespace Schema

variable {s : Schema} {record name base : String} {d member : Json} {properties : Entries Json}
  {e : Error}

/-! ### Members of a composition -/

/-- The members of a composition: all properties that they bring in are fields. -/
def IsMember (s : Schema) (member : Json) : Prop :=
  ∃ properties, s.Supplies member properties ∧ ∀ p ∈ properties, p.2.IsField

/-- What is wrong with a member of a composition: a property that it brings in, or the record that
it refers to. -/
inductive MemberFault (s : Schema) (record : String) (member : Json) : Error → Prop
  | property {properties : Entries Json} {e : Error} (hs : s.Supplies member properties)
      (h : PropertyFault properties e) : MemberFault s record member e
  | missing {base : String} (hown : member.properties? = none)
      (hr : member.reference? = some base) (hs : s.get? base = none) :
      MemberFault s record member (.unresolvedReference base)
  | container {base : String} {d : Json} (hown : member.properties? = none)
      (hr : member.reference? = some base) (hs : s.get? base = some d)
      (h : d.properties? = none) : MemberFault s record member (.unsupportedComposition record base)

/-- A member contributes the types of the properties that it brings in. -/
theorem Supplies.contribution_eq (h : s.Supplies member properties) :
    s.contribution record member = typedProperties properties := by
  unfold contribution
  cases h with
  | own h => simp only [h]
  | base h hr hs hp =>
    have hresolve := resolve_eq_ok_iff.2 hs
    simp only [h, hr, hresolve, bind, Except.bind, hp]
  | nothing h hr =>
    simp only [h, hr]
    rfl

theorem MemberFault.contribution_eq (h : s.MemberFault record member e) :
    s.contribution record member = .error e := by
  cases h with
  | property hs h =>
    rw [hs.contribution_eq]
    exact ((settledBy_typedProperties _).error_iff e).2 h
  | missing hown hr hs =>
    have hresolve := resolve_eq_error_iff.2 ⟨get?_eq_none_iff.1 hs, rfl⟩
    unfold contribution
    simp only [hown, hr, hresolve, bind, Except.bind]
  | container hown hr hs h =>
    have hresolve := resolve_eq_ok_iff.2 hs
    unfold contribution
    simp only [hown, hr, hresolve, bind, Except.bind, h]

/-- A member brings in properties, unless its base is missing or has none. -/
theorem supplies_or_fault (s : Schema) (record : String) (member : Json) :
    (∃ properties, s.Supplies member properties) ∨ ∃ e, s.MemberFault record member e := by
  cases hown : member.properties? with
  | some properties => exact .inl ⟨properties, .own hown⟩
  | none =>
    cases hr : member.reference? with
    | none => exact .inl ⟨[], .nothing hown hr⟩
    | some base =>
      cases hs : s.get? base with
      | none => exact .inr ⟨_, .missing hown hr hs⟩
      | some d =>
        cases hp : d.properties? with
        | none => exact .inr ⟨_, .container hown hr hs hp⟩
        | some properties => exact .inl ⟨properties, .base hown hr hs hp⟩

theorem settledBy_contribution (s : Schema) (record : String) (member : Json) :
    (s.contribution record member).SettledBy (s.IsMember member)
      (s.MemberFault record member) := by
  refine .intro ?_ (fun _ h => h.contribution_eq) ?_
  · rintro ⟨properties, hs, h⟩
    rw [hs.contribution_eq]
    exact (settledBy_typedProperties properties).ok_iff.2 h
  · -- A member that brings in properties is as sound as these are.
    rcases s.supplies_or_fault record member with ⟨properties, hs⟩ | h
    · rcases (settledBy_typedProperties properties).total with h | ⟨e, h⟩
      · exact .inl ⟨properties, hs, h⟩
      · exact .inr ⟨e, .property hs h⟩
    · exact .inr h

/-! ### Records -/

/-- What is wrong with a record: it is missing, its definition has no known shape, or it has one and
there is a first fault in what the shape is made of. -/
inductive RecordFault (s : Schema) (name : String) : Error → Prop
  | missing (hs : s.get? name = none) : RecordFault s name (.unresolvedReference name)
  | shape {d : Json} (hs : s.get? name = some d) (h : d.IsShapeless) :
      RecordFault s name (.unhandledRecordShape name)
  | bare {d : Json} {e : Error} (hs : s.get? name = some d) (htype : d.IsBare)
      (h : d.FieldFault e) : RecordFault s name e
  | field {d : Json} {properties : Entries Json} {e : Error} (hs : s.get? name = some d)
      (htype : ¬ d.IsBare) (hp : d.properties? = some properties)
      (h : PropertyFault properties e) : RecordFault s name e
  | member {d : Json} {members : List Json} {e : Error} (hs : s.get? name = some d)
      (htype : ¬ d.IsBare) (hp : d.properties? = none) (hm : d.getArray? "allOf" = some members)
      (h : FirstFault s.IsMember (s.MemberFault name) members e) : RecordFault s name e

theorem record_of_shape {shape : Shape} (hs : s.get? name = some d)
    (hshape : Shape.ofDefinition? d = some shape) :
    s.record name = (s.body name shape).map (Record.mk name) := by
  have hresolve := resolve_eq_ok_iff.2 hs
  simp only [Schema.record, hresolve, bind, Except.bind, hshape]
  cases s.body name shape <;> rfl

theorem settledBy_record_of_bare (hs : s.get? name = some d) (htype : d.IsBare) :
    (s.record name).SettledBy d.IsField d.FieldFault := by
  rw [record_of_shape hs (Shape.ofDefinition?_of_bare htype)]
  exact (d.settledBy_ofDefinition.map _).map _

theorem settledBy_record_of_properties (hs : s.get? name = some d) (htype : ¬ d.IsBare)
    (hp : d.properties? = some properties) :
    (s.record name).SettledBy (∀ p ∈ properties, p.2.IsField) (PropertyFault properties) := by
  rw [record_of_shape hs (Shape.ofDefinition?_of_properties htype hp)]
  exact ((settledBy_typedProperties properties).map _).map _

theorem settledBy_record_of_members {members : List Json} (hs : s.get? name = some d)
    (htype : ¬ d.IsBare) (hp : d.properties? = none) (hm : d.getArray? "allOf" = some members) :
    (s.record name).SettledBy (∀ m ∈ members, s.IsMember m)
      (FirstFault s.IsMember (s.MemberFault name) members) := by
  rw [record_of_shape hs (Shape.ofDefinition?_of_members htype hp hm)]
  exact ((settledBy_mapM (s.settledBy_contribution name) members).map _).map _

theorem record_of_shapeless (hs : s.get? name = some d) (h : d.IsShapeless) :
    s.record name = .error (.unhandledRecordShape name) := by
  have hresolve := resolve_eq_ok_iff.2 hs
  simp only [Schema.record, hresolve, bind, Except.bind, Shape.ofDefinition?_of_shapeless h]

theorem exists_record (hs : s.get? name = some d) (h : d.IsRecord s.IsMember) :
    ∃ r, s.record name = .ok r := by
  cases h with
  | bare htype h => exact (settledBy_record_of_bare hs htype).ok_iff.2 h
  | fields htype hp h => exact (settledBy_record_of_properties hs htype hp).ok_iff.2 h
  | composed htype hp hm h => exact (settledBy_record_of_members hs htype hp hm).ok_iff.2 h

theorem RecordFault.record_eq (h : s.RecordFault name e) : s.record name = .error e := by
  cases h with
  | missing hs =>
    have hresolve := resolve_eq_error_iff.2 ⟨get?_eq_none_iff.1 hs, rfl⟩
    simp only [Schema.record, hresolve, bind, Except.bind]
  | shape hs h => exact record_of_shapeless hs h
  | bare hs htype h => exact ((settledBy_record_of_bare hs htype).error_iff e).2 h
  | field hs htype hp h => exact ((settledBy_record_of_properties hs htype hp).error_iff e).2 h
  | member hs htype hp hm h =>
    exact ((settledBy_record_of_members hs htype hp hm).error_iff e).2 h

theorem isRecord_or_fault (s : Schema) (name : String) :
    (∃ d, s.get? name = some d ∧ d.IsRecord s.IsMember) ∨ ∃ e, s.RecordFault name e := by
  cases hs : s.get? name with
  | none => exact .inr ⟨_, .missing hs⟩
  | some d =>
    by_cases htype : d.IsBare
    · rcases (settledBy_record_of_bare hs htype).total with h | ⟨e, h⟩
      · exact .inl ⟨d, rfl, .bare htype h⟩
      · exact .inr ⟨e, .bare hs htype h⟩
    cases hp : d.properties? with
    | some properties =>
      rcases (settledBy_record_of_properties hs htype hp).total with h | ⟨e, h⟩
      · exact .inl ⟨d, rfl, .fields htype hp h⟩
      · exact .inr ⟨e, .field hs htype hp h⟩
    | none =>
      cases hm : d.getArray? "allOf" with
      | none => exact .inr ⟨_, .shape hs ⟨htype, hp, hm⟩⟩
      | some members =>
        rcases (settledBy_record_of_members hs htype hp hm).total with h | ⟨e, h⟩
        · exact .inl ⟨d, rfl, .composed htype hp hm h⟩
        · exact .inr ⟨e, .member hs htype hp hm h⟩

theorem settledBy_record (s : Schema) (name : String) :
    (s.record name).SettledBy (∃ d, s.get? name = some d ∧ d.IsRecord s.IsMember)
      (s.RecordFault name) :=
  .intro (fun ⟨_, hs, h⟩ => exists_record hs h) (fun _ h => h.record_eq) (s.isRecord_or_fault name)

theorem MemberFault.ne_unhandledRecordShape (h : s.MemberFault record member e) (other : String) :
    e ≠ .unhandledRecordShape other := by
  cases h with
  | property _ h =>
    obtain ⟨_, p, _, _, _, hp⟩ := h
    exact hp.ne_unhandledRecordShape other
  | missing | container => exact nofun

/-- Only a record without a shape is reported as one. -/
theorem recordFault_unhandledRecordShape_iff :
    s.RecordFault name (.unhandledRecordShape record) ↔
      record = name ∧ ∃ d, s.get? name = some d ∧ d.IsShapeless := by
  constructor
  · intro h
    cases h with
    | shape hs h => exact ⟨rfl, _, hs, h⟩
    | bare _ _ h => exact absurd rfl (h.ne_unhandledRecordShape record)
    | field _ _ _ h =>
      obtain ⟨_, p, _, _, _, hp⟩ := h
      exact absurd rfl (hp.ne_unhandledRecordShape record)
    | member _ _ _ _ h =>
      obtain ⟨_, m, _, _, _, hm⟩ := h
      exact absurd rfl (hm.ne_unhandledRecordShape record)
  · rintro ⟨rfl, d, hs, h⟩
    exact .shape hs h

/-- **A record can be normalised exactly if it is there and its definition is in the grammar.**
Otherwise the error is that of the first fault in document order, and a record is reported to have
no known shape exactly if it has none. -/
theorem record_settled_by_grammar (s : Schema) (name : String) :
    ((∃ r, s.record name = .ok r) ↔ ∃ d, s.get? name = some d ∧ d.IsRecord s.IsMember) ∧
      (∀ e, s.record name = .error e ↔ s.RecordFault name e) ∧
      ∀ record, s.record name = .error (.unhandledRecordShape record) ↔
        record = name ∧ ∃ d, s.get? name = some d ∧ d.IsShapeless := by
  have h := s.settledBy_record name
  refine ⟨h.ok_iff, h.error_iff, fun record => ?_⟩
  rw [h.error_iff, recordFault_unhandledRecordShape_iff]

/-- The member of `Order` has a property that is no field, and it refers to a record all of whose
properties are fields. -/
def annotatedOrders : Schema := ofList
  [("Order", .obj [("allOf", .arr [.obj [("$ref", .str "#/definitions/Item"),
      ("properties", .obj [("note", .obj [])])]])]),
   ("Item", .obj [("properties", .obj [("id", .obj [("type", .str "string")])])])]

/-- **A sound base does not make up for a property at fault**: a member that has properties is
judged by them alone, whatever record it refers to besides. -/
theorem annotatedOrders_base_insufficient :
    ¬ ((∃ r, annotatedOrders.record "Order" = .ok r) ↔
      ∃ d, annotatedOrders.get? "Order" = some d ∧ d.IsRecord fun member =>
        (∃ properties, member.properties? = some properties ∧ ∀ p ∈ properties, p.2.IsField) ∨
        (∃ base definition properties, member.reference? = some base ∧
          annotatedOrders.get? base = some definition ∧
          definition.properties? = some properties ∧ ∀ p ∈ properties, p.2.IsField) ∨
        (member.properties? = none ∧ member.reference? = none)) := by
  intro h
  have hfails : annotatedOrders.record "Order" = .error (.unknownFieldKind (.obj [])) := by
    with_unfolding_all rfl
  have hsucceeds : ∃ r, annotatedOrders.record "Order" = .ok r := by
    refine h.2 ⟨_, rfl, .composed ?_ rfl rfl fun member hmember => ?_⟩
    · rintro ⟨kind, htype, _⟩
      cases htype
    · obtain rfl := List.mem_singleton.1 hmember
      refine .inr (.inl ⟨"Item", _, _, rfl, rfl, rfl, fun p hp => ?_⟩)
      obtain rfl := List.mem_singleton.1 hp
      exact .plain rfl (by decide)
  obtain ⟨r, hr⟩ := hsucceeds
  cases hfails.symm.trans hr

end Schema

end SchemaCompiler
