import SchemaCompiler.Record.Basic
import SchemaCompiler.Schema.Basic

/-!
# From definitions to records

A definition has one of three shapes, tried in this order: a bare type, a field container, or a
composition of members.  The members of a composition contribute their fields one after the other: a
key that comes again keeps its place and takes the later type.
-/

namespace SchemaCompiler

/-- The shape of a record definition. -/
inductive Shape where
  /-- A type other than `object`. -/
  | bare (definition : Json)
  /-- A field container, by its properties. -/
  | fields (properties : Entries Json)
  /-- A composition, by its members. -/
  | composed (members : List Json)

/-- Whether the `type` of a definition, if it has one, is `object`. -/
def Json.allowsObject (definition : Json) : Bool :=
  match definition.get? "type" with
  | none => true
  | some (.str "object") => true
  | some _ => false

/-- The properties that a definition lists. -/
def Json.properties? (definition : Json) : Option (Entries Json) :=
  definition.getObject? "properties"

/-- The shape of a definition, if it has one of the known shapes. -/
def Shape.ofDefinition? (definition : Json) : Option Shape :=
  if definition.allowsObject then
    match definition.properties? with
    | some properties => some (.fields properties)
    | none => (definition.getArray? "allOf").map .composed
  else some (.bare definition)

/-- The types of the properties, in order. -/
def typedProperties (properties : Entries Json) : Except Error (List (String × FieldType)) :=
  properties.mapM fun p => (FieldType.ofDefinition p.2).map fun type => (p.1, type)

/-- The fields of a record from typed keys: a repeated key keeps its first place and takes its last
type.  Every field counts as required. -/
def fieldsOf (typed : List (String × FieldType)) : List Field :=
  (Entries.ofList typed).map fun e => ⟨e.1, e.2, true⟩

namespace Schema

/-- What a member of a composition contributes: its own properties, else those of the record it
refers to, else nothing. -/
def contribution (s : Schema) (record : String) (member : Json) :
    Except Error (List (String × FieldType)) :=
  match member.properties?, member.reference? with
  | some properties, _ => typedProperties properties
  | none, some base => do
    match (← s.resolve base).properties? with
    | some properties => typedProperties properties
    | none => .error (.unsupportedComposition record base)
  | none, none => .ok []

/-- The body of a record of a given shape. -/
def body (s : Schema) (record : String) : Shape → Except Error RecordBody
  | .bare definition => (FieldType.ofDefinition definition).map .wrapper
  | .fields properties => (typedProperties properties).map fun typed => .fields (fieldsOf typed)
  | .composed members =>
    (members.mapM (s.contribution record)).map fun parts => .fields (fieldsOf parts.flatten)

/-- The record of a given name. -/
def record (s : Schema) (name : String) : Except Error Record := do
  let definition ← s.resolve name
  match Shape.ofDefinition? definition with
  | none => .error (.unhandledRecordShape name)
  | some shape => return ⟨name, ← s.body name shape⟩

end Schema

end SchemaCompiler
