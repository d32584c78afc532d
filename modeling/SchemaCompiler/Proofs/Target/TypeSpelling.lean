import Mathlib.Logic.Function.Iterate
import SchemaCompiler.Proofs.Target.Identifiers
import SchemaCompiler.Target.Basic

/-!
# The spelling of a type determines the type

Arrays are told apart from all other types by their bracket, which no identifier and no name of a
built-in type has.  Records are told apart from built-in types by their first letter and, in Rust,
by the names that are taken.  So two types are spelled alike only if they are built in the same way
from types that are spelled alike, and there only two things may differ: the names of records with
one identifier, and in Rust the width of an integer that has none.

* `Target.spelling_unambiguous`: types are spelled alike exactly if they are the same in this sense;
  in particular no record, in arrays of any depth, is spelled like any other kind of type.
-/

namespace SchemaCompiler

open Naming (startsLower)

namespace FieldType

/-- The types that are neither arrays nor records. -/
def builtIns : List FieldType :=
  [string, float, double, boolean, object, integer .unspecified, integer .int16, integer .uint16,
   integer .int32, integer .uint32, integer .int64, integer .uint64]

theorem kind_cases (type : FieldType) : type ∈ builtIns ∨ (∃ item, type = array item) ∨
    ∃ name, type = record name := by
  cases type with
  | array item => exact .inr (.inl ⟨item, rfl⟩)
  | record name => exact .inr (.inr ⟨name, rfl⟩)
  | integer width => cases width <;> exact .inl (by decide)
  | string | float | double | boolean | object => exact .inl (by decide)

end FieldType

namespace Target

open FieldType (builtIns)

/-- The width that a target gives to integers: in Rust each of them has one. -/
def width : Target → IntWidth → IntWidth
  | rust, .unspecified => .int32
  | _, w => w

/-- Types that are the same but for names of records with one identifier, and for integers that the
target gives one width. -/
inductive SameType (t : Target) : FieldType → FieldType → Prop
  | refl (type : FieldType) : SameType t type type
  | integer {w w' : IntWidth} (h : t.width w = t.width w') : SameType t (.integer w) (.integer w')
  | array {item item' : FieldType} (h : SameType t item item') :
      SameType t (.array item) (.array item')
  | record {name name' : String} (h : t.typeIdent name = t.typeIdent name') :
      SameType t (.record name) (.record name')

variable {t : Target} {a b item : FieldType} {name : String}

/-! ### Arrays, records and built-in types -/

/-- What stands before the items of an array. -/
def arrayOpening : Target → String
  | rust => "Vec<"
  | cpp _ => "std::vector<"

theorem spelling_array (t : Target) (item : FieldType) :
    t.spelling (.array item) = t.arrayOpening ++ t.spelling item ++ ">" := by
  cases t <;> rfl

theorem spelling_record (t : Target) (name : String) :
    t.spelling (.record name) = t.typeIdent name := by
  cases t <;> rfl

theorem spelling_integer (t : Target) (w : IntWidth) :
    t.spelling (.integer w) = t.spelling (.integer (t.width w)) := by
  cases t <;> cases w <;> rfl

theorem isIdentifier_typeIdent (t : Target) (name : String) :
    Naming.IsIdentifier (t.typeIdent name) := by
  cases t with
  | rust => exact (RustModule.isTypeIdent_typeIdent name).isIdentifier
  | cpp dumpMacro => exact Naming.isIdentifier_identifier _

theorem bracket_not_mem_spelling_builtIn (t : Target) (h : b ∈ builtIns) :
    '<' ∉ (t.spelling b).toList := by
  have hrust : ∀ b ∈ builtIns, '<' ∉ (RustModule.spelling b).toList := by decide +kernel
  have hcpp : ∀ b ∈ builtIns, '<' ∉ (CppHeader.spelling b).toList := by decide +kernel
  cases t with
  | rust => exact hrust b h
  | cpp dumpMacro => exact hcpp b h

/-- The spellings of arrays, and only these, have a bracket. -/
theorem bracket_mem_spelling_iff :
    '<' ∈ (t.spelling a).toList ↔ ∃ item, a = .array item := by
  constructor
  · intro hmem
    obtain ha | ⟨item, rfl⟩ | ⟨name, rfl⟩ := a.kind_cases
    · exact absurd hmem (bracket_not_mem_spelling_builtIn t ha)
    · exact ⟨item, rfl⟩
    · rw [spelling_record] at hmem
      exact absurd ((t.isIdentifier_typeIdent name).isIdentifierChar '<' hmem) (by decide)
  · rintro ⟨item, rfl⟩
    have hrust : '<' ∈ "Vec<".toList := by decide
    have hcpp : '<' ∈ "std::vector<".toList := by decide
    have hopening : '<' ∈ t.arrayOpening.toList := by
      cases t with
      | rust => exact hrust
      | cpp dumpMacro => exact hcpp
    rw [spelling_array, String.append_assoc, String.toList_append]
    exact List.mem_append_left _ hopening

/-- No record is spelled like a built-in type. -/
theorem spelling_record_ne_builtIn (t : Target) (name : String) (h : b ∈ builtIns) :
    t.spelling (.record name) ≠ t.spelling b := by
  cases t with
  | rust =>
    have hall : ∀ b ∈ builtIns, startsLower (RustModule.spelling b) = true ∨
        RustModule.spelling b ∈ RustModule.takenTypes := by decide +kernel
    intro heq
    have htype := RustModule.isTypeIdent_typeIdent name
    rw [show RustModule.typeIdent name = RustModule.spelling b from heq] at htype
    rcases hall b h with hlower | htaken
    · exact Bool.false_ne_true (htype.startsLower_eq_false.symm.trans hlower)
    · exact htype.not_mem_takenTypes htaken
  | cpp dumpMacro =>
    have hall : ∀ b ∈ builtIns, startsLower (CppHeader.spelling b) = true := by decide +kernel
    intro heq
    have htype : startsLower (CppHeader.typeIdent name) = false :=
      Naming.startsLower_identifier_typeName name
    rw [show CppHeader.typeIdent name = CppHeader.spelling b from heq, hall b h] at htype
    cases htype

/-- Two built-in types with one spelling are one type, or in Rust the two integers of 32 bits. -/
theorem sameType_of_builtIns (ha : a ∈ builtIns) (hb : b ∈ builtIns)
    (h : t.spelling a = t.spelling b) : t.SameType a b := by
  cases t with
  | rust =>
    have hall : ∀ a ∈ builtIns, ∀ b ∈ builtIns, RustModule.spelling a = RustModule.spelling b →
        a = b ∨ (a = .integer .unspecified ∧ b = .integer .int32) ∨
          (a = .integer .int32 ∧ b = .integer .unspecified) := by decide +kernel
    obtain rfl | ⟨rfl, rfl⟩ | ⟨rfl, rfl⟩ := hall a ha b hb h
    · exact .refl a
    · exact .integer rfl
    · exact .integer rfl
  | cpp dumpMacro =>
    have hall : ∀ a ∈ builtIns, ∀ b ∈ builtIns, CppHeader.spelling a = CppHeader.spelling b →
        a = b := by decide +kernel
    obtain rfl := hall a ha b hb h
    exact .refl a

/-! ### Spellings -/

theorem SameType.spelling_eq (h : t.SameType a b) : t.spelling a = t.spelling b := by
  induction h with
  | refl type => rfl
  | integer h => rw [spelling_integer, h, ← spelling_integer]
  | array _ ih => rw [spelling_array, spelling_array, ih]
  | record h => rw [spelling_record, spelling_record, h]

/-- A built-in type is spelled like no array and no record. -/
theorem sameType_of_builtIn (ha : a ∈ builtIns) (h : t.spelling a = t.spelling b) :
    t.SameType a b := by
  obtain hb | ⟨item, rfl⟩ | ⟨name, rfl⟩ := b.kind_cases
  · exact sameType_of_builtIns ha hb h
  · have hbracket : '<' ∈ (t.spelling (.array item)).toList :=
      bracket_mem_spelling_iff.2 ⟨item, rfl⟩
    exact absurd (h ▸ hbracket) (bracket_not_mem_spelling_builtIn t ha)
  · exact absurd h.symm (spelling_record_ne_builtIn t name ha)

/-- Along the arrays around the first type: the other type has as many of them. -/
theorem sameType_of_spelling_eq (h : t.spelling a = t.spelling b) : t.SameType a b := by
  induction a generalizing b with
  | array item ih =>
    obtain ⟨item', rfl⟩ : ∃ item', b = .array item' := by
      rw [← bracket_mem_spelling_iff, ← h]
      exact bracket_mem_spelling_iff.2 ⟨item, rfl⟩
    -- Both have the same opening and the same end, so that what is left are the items.
    rw [spelling_array, spelling_array, String.append_left_inj, String.append_right_inj] at h
    exact .array (ih h)
  | record name =>
    obtain hb | ⟨item, rfl⟩ | ⟨name', rfl⟩ := b.kind_cases
    · exact absurd h (spelling_record_ne_builtIn t name hb)
    · obtain ⟨_, hitem⟩ : ∃ item', FieldType.record name = .array item' := by
        rw [← bracket_mem_spelling_iff, h]
        exact bracket_mem_spelling_iff.2 ⟨item, rfl⟩
      cases hitem
    · rw [spelling_record, spelling_record] at h
      exact .record h
  | integer w => exact sameType_of_builtIn (by cases w <;> decide) h
  | string | float | double | boolean | object => exact sameType_of_builtIn (by decide) h

theorem spelling_eq_iff : t.spelling a = t.spelling b ↔ t.SameType a b :=
  ⟨sameType_of_spelling_eq, SameType.spelling_eq⟩

/-! ### Records in arrays -/

theorem sameType_array_iff :
    t.SameType (.array item) b ↔ ∃ item', b = .array item' ∧ t.SameType item item' := by
  constructor
  · intro h
    cases h with
    | refl => exact ⟨item, rfl, .refl item⟩
    | array h => exact ⟨_, rfl, h⟩
  · rintro ⟨item', rfl, h⟩
    exact .array h

theorem sameType_record_iff :
    t.SameType (.record name) b ↔
      ∃ name', b = .record name' ∧ t.typeIdent name = t.typeIdent name' := by
  constructor
  · intro h
    cases h with
    | refl => exact ⟨name, rfl, rfl⟩
    | record h => exact ⟨_, rfl, h⟩
  · rintro ⟨name', rfl, h⟩
    exact .record h

/-- Only records in as many arrays are the same as a record in arrays. -/
theorem sameType_nested_iff (depth : Nat) :
    t.SameType (FieldType.array^[depth] (.record name)) b ↔
      ∃ name', b = FieldType.array^[depth] (.record name') ∧
        t.typeIdent name = t.typeIdent name' := by
  induction depth generalizing b with
  | zero => exact sameType_record_iff
  | succ depth ih =>
    simp only [Function.iterate_succ_apply', sameType_array_iff, ih]
    constructor
    · rintro ⟨_, rfl, name', rfl, h⟩
      exact ⟨name', rfl, h⟩
    · rintro ⟨name', rfl, h⟩
      exact ⟨_, rfl, name', rfl, h⟩

/-- **The spelling of a type determines the type**, up to the names of records that have one
identifier and, in Rust, up to the two integers of 32 bits.  In particular a record, in arrays of
any depth, is spelled like records in as many arrays and like no other type. -/
theorem spelling_unambiguous (t : Target) :
    (∀ a b : FieldType, t.spelling a = t.spelling b ↔ t.SameType a b) ∧
    ∀ (name : String) (depth : Nat) (b : FieldType),
      t.spelling (FieldType.array^[depth] (.record name)) = t.spelling b ↔
        ∃ name', b = FieldType.array^[depth] (.record name') ∧
          t.typeIdent name = t.typeIdent name' := by
  refine ⟨fun a b => spelling_eq_iff, fun name depth b => ?_⟩
  rw [spelling_eq_iff]
  exact sameType_nested_iff depth

-- A record by the name of a built-in type is spelled otherwise.
example : Target.rust.spelling (.array (.record "value")) = "Vec<Value_>" ∧
    Target.rust.spelling (.array .object) = "Vec<Value>" := by
  decide +kernel

end Target

end SchemaCompiler
