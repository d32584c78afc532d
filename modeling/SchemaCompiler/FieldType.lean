import SchemaCompiler.Error
import SchemaCompiler.Schema.Reference

/-!
# Field types

The type of a field, or of a record that is a bare type, independent of any target language, and how
it is read off a definition.  A definition with a `type` is decided by it alone; only a definition
without one may be a reference.
-/

namespace SchemaCompiler

/-- The width of an integer. -/
inductive IntWidth where
  | unspecified
  | int16
  | uint16
  | int32
  | uint32
  | int64
  | uint64
deriving DecidableEq, Repr

/-- The width that a format selects. -/
def IntWidth.ofFormat : Option String → IntWidth
  | some "int16" => .int16
  | some "uint16" => .uint16
  | some "int32" => .int32
  | some "uint32" => .uint32
  | some "int64" => .int64
  | some "uint64" => .uint64
  | _ => .unspecified

/-- The type of a field. -/
inductive FieldType where
  | string
  | float
  | double
  | integer (width : IntWidth)
  | boolean
  | array (item : FieldType)
  /-- A value of any structure. -/
  | object
  /-- A record, by its name in the schema. -/
  | record (name : String)
deriving DecidableEq, Repr

namespace FieldType

/-- How many arrays there are around the innermost type. -/
def arrayDepth : FieldType → Nat
  | array item => item.arrayDepth + 1
  | _ => 0

/-- The record that the innermost type is, if it is one. -/
def record? : FieldType → Option String
  | array item => item.record?
  | record name => some name
  | _ => none

/-- The type of a number with a format. -/
def ofNumberFormat : String → FieldType
  | "float" => float
  | "double" => double
  | format => integer (.ofFormat (some format))

/-- The type that a definition describes. -/
def ofDefinition (d : Json) : Except Error FieldType :=
  match d.get? "type" with
  | none =>
    match d.reference? with
    | some target => .ok (record target)
    | none => .error (.unknownFieldKind d)
  | some (.str "string") => .ok string
  | some (.str "number") =>
    match d.getString? "format" with
    | some format => .ok (ofNumberFormat format)
    | none => .error (.missingNumberFormat d)
  | some (.str "integer") => .ok (integer (.ofFormat (d.getString? "format")))
  | some (.str "boolean") => .ok boolean
  | some (.str "array") =>
    match _h : d.get? "items" with
    | some items => (ofDefinition items).map array
    | none => .error (.missingArrayItems d)
  | some (.str "object") => .ok object
  | some _ => .error (.unknownFieldKind d)
termination_by sizeOf d
decreasing_by exact Json.sizeOf_lt_of_get? _h

end FieldType

end SchemaCompiler
