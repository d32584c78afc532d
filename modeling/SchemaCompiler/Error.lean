import SchemaCompiler.Json.Fault

/-!
# Why a compilation fails

Every cause ends the compilation: either all records are emitted or none is.  `Error.message` is the
wording of each cause.
-/

namespace SchemaCompiler

/-- Why no record map could be read from a document. -/
inductive DocumentError where
  /-- A part of the document could not be read. -/
  | unreadable (error : ReadError)
  /-- The text is not one value. -/
  | malformed (error : ReadError)
  /-- There is neither of the two places for records. -/
  | noRecords
  /-- The pointer leads nowhere. -/
  | selectsNothing (pointer : String)
  /-- The pointer leads to a value that is no object. -/
  | notRecords (found : Json)

/-- The wording of a document error. -/
def DocumentError.message : DocumentError → String
  | .unreadable e => s!"at JSON path {pathText e.path} → {e.text}"
  | .malformed e => e.text
  | .noRecords => "document has neither `definitions` nor `components.schemas`"
  | .selectsNothing pointer => s!"JSON pointer {pointer} selects nothing"
  | .notRecords found =>
    s!"at JSON path {pathText []} → {(Fault.mismatch found Wanted.map).message}"

/-- Why a compilation fails. -/
inductive Error where
  /-- A field definition has neither a known `type` nor a reference. -/
  | unknownFieldKind (definition : Json)
  /-- A number field without a `format`. -/
  | missingNumberFormat (definition : Json)
  /-- An array field without `items`. -/
  | missingArrayItems (definition : Json)
  /-- A record definition of no known shape. -/
  | unhandledRecordShape (record : String)
  /-- A reference to a record that does not exist. -/
  | unresolvedReference (target : String)
  /-- A record is composed of one that has no fields of its own. -/
  | unsupportedComposition (record base : String)
  /-- Records that refer to each other in a circle, which starts and ends at the same record. -/
  | referenceCycle (records : List String)
  /-- Two keys of a record have the same member identifier. -/
  | memberCollision (record member first second : String)
  /-- Two records have the same type identifier. -/
  | typeCollision (name first second : String)
  /-- Two documents define the same record. -/
  | duplicateRecord (record : String)
  /-- A document could not be read as a record map. -/
  | document (error : DocumentError)
  /-- The sink took less than the whole text. -/
  | sinkFull

/-- The wording of a cause. -/
def Error.message : Error → String
  | .unknownFieldKind d => s!"unknown field kind: {d.text}"
  | .missingNumberFormat d => s!"number field without a `format`: {d.text}"
  | .missingArrayItems d => s!"array field without `items`: {d.text}"
  | .unhandledRecordShape record => s!"unhandled record shape for `{record}`"
  | .unresolvedReference target => s!"unresolved reference to `{target}`"
  | .unsupportedComposition record base =>
    s!"record `{record}` composes `{base}`, which is not a field container"
  | .referenceCycle records => "reference cycle: " ++ String.intercalate " -> " records
  | .memberCollision record member first second =>
    s!"record `{record}`: keys `{first}` and `{second}` both become member `{member}`"
  | .typeCollision name first second =>
    s!"records `{first}` and `{second}` both become type `{name}`"
  | .duplicateRecord record => s!"record `{record}` is defined more than once"
  | .document e => s!"schema document error: {e.message}"
  | .sinkFull => "IO error: failed to write whole buffer"

end SchemaCompiler
