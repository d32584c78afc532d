import SchemaCompiler.Record.Normalize
import SchemaCompiler.Schema.Order
import SchemaCompiler.Text.Quoted

/-!
# What is logged

The events of a run, in order, as functions of what is compiled.  A record is logged once it is
normalised; a member of a composition that contributes nothing is logged when it is passed over,
even if a later member turns out to be wrong.
-/

namespace SchemaCompiler

/-- Something worth noting during a run. -/
inductive Event where
  /-- A document was read. -/
  | loaded (path : String) (records : Nat)
  /-- The order of so many records is settled. -/
  | ordered (records : Nat)
  /-- A member of a composition contributes nothing. -/
  | passedOver (record : String)
  /-- A record is ready to be emitted. -/
  | normalized (record : String)
deriving DecidableEq, Repr

/-- The log line of an event. -/
def Event.line : Event → String
  | .loaded path records =>
    s!"DEBUG modelgen::cli: loaded schema document path={path} records={records}"
  | .ordered records => s!"DEBUG modelgen::graph: planned emission order records={records}"
  | .passedOver record =>
    "DEBUG modelgen::normalize: skipping composition member without properties or $ref record=" ++
      Text.shown record
  | .normalized record =>
    "DEBUG modelgen::normalize: normalized record record=" ++ Text.shown record

namespace Schema

/-- Whether a member of a composition contributes nothing. -/
def isPassedOver (member : Json) : Bool :=
  member.properties?.isNone && member.reference?.isNone

/-- The events of normalising a definition of a given shape. -/
def shapeEvents (s : Schema) (name : String) : Option Shape → List Event
  | some (.composed members) =>
    ((members.takeWhile fun m => (s.contribution name m).isOk).filter isPassedOver).map
      fun _ => .passedOver name
  | _ => []

/-- The events of normalising a record. -/
def recordEvents (s : Schema) (name : String) : List Event :=
  s.shapeEvents name ((s.get? name).bind Shape.ofDefinition?) ++
    if (s.record name).isOk then [.normalized name] else []

/-- The events of normalising records in order, up to the first that fails. -/
def recordsEvents (s : Schema) : List String → List Event
  | [] => []
  | name :: rest =>
    s.recordEvents name ++ if (s.record name).isOk then s.recordsEvents rest else []

/-- The events of ordering the records. -/
def orderEvents (s : Schema) : List Event :=
  match s.emissionOrder with
  | .ok names => [.ordered names.length]
  | .error _ => []

/-- The events of ordering and normalising all records. -/
def planEvents (s : Schema) : List Event :=
  s.orderEvents ++
    match s.emissionOrder with
    | .ok names => s.recordsEvents names
    | .error _ => []

end Schema

end SchemaCompiler
