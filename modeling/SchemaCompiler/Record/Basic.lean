import SchemaCompiler.FieldType

/-!
# Records

A record ready to be emitted: a wrapper around a single value, or a list of fields.
-/

namespace SchemaCompiler

/-- A field of a record. -/
structure Field where
  /-- The key as the schema has it. -/
  key : String
  type : FieldType
  /-- For information only: the generated code never insists on a field. -/
  required : Bool
deriving DecidableEq, Repr

/-- What a record holds. -/
inductive RecordBody where
  /-- A single value. -/
  | wrapper (type : FieldType)
  | fields (fields : List Field)
deriving DecidableEq, Repr

/-- A record under its name in the schema. -/
structure Record where
  name : String
  body : RecordBody
deriving DecidableEq, Repr

namespace Record

/-- The fields of a record; a wrapper has none. -/
def fields (r : Record) : List Field :=
  match r.body with
  | .wrapper _ => []
  | .fields fields => fields

/-- The first field with a given key. -/
def field? (r : Record) (key : String) : Option Field :=
  r.fields.find? fun f => f.key == key

end Record

end SchemaCompiler
