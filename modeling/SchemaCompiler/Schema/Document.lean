import SchemaCompiler.Json.Pointer
import SchemaCompiler.Json.Skip
import SchemaCompiler.Schema.Basic

/-!
# Loading a document

Records are found under `definitions`, else under `schemas` in `components`, or where a pointer
says.

Without a pointer the document is read key by key: only the two places are looked into, everything
else is passed over, and reading ends with the document's last brace.  The document and its
`components` may also be arrays that hold their fields in order.  With a pointer the whole text is
one value, from which the pointer selects.
-/

namespace SchemaCompiler

/-- The two places for records in a document, every entry as it stands; `none` where a place is
missing or null. -/
structure Document where
  definitions : Option (List (String × Json))
  components : Option (List (String × Json))

namespace Reader

/-- Fails because the value that stands next is not of the kind called for.  A scalar is read first,
an opening bracket stays unread. -/
def mismatch {α : Type} (wanted : Wanted) : Reader α := do
  match ← peek? with
  | some '[' => failHere (.mismatch (.arr []) wanted)
  | some '\x7b' => failHere (.mismatch (.obj []) wanted)
  | _ =>
    let found ← scalar
    failHere (.mismatch found wanted)

/-- An object as it stands, in which values may nest `budget` deep, the object included. -/
def map (budget : Nat) : Reader (List (String × Json)) := do
  blanks
  match ← peek? with
  | none => failNext .eofValue
  | some '\x7b' =>
    match budget with
    | 0 => failNext .tooDeep
    | budget + 1 =>
      advance
      pairs (value budget)
  | some _ => mismatch .map

/-- A value that may be null. -/
def nullable {α : Type} (r : Reader α) : Reader (Option α) := do
  blanks
  match ← peek? with
  | some 'n' => literal "ull"; return none
  | _ => return some (← r)

/-- Fails because a field has come for the second time.  The fault is noticed after the blanks
behind its key, and after the closing brace if one follows. -/
def duplicateField {α : Type} (name : String) : Reader α := do
  blanks
  match ← peek? with
  | some '\x7d' => advance
  | _ => pure ()
  failHere (.duplicateField name)

/-- The value of a field that has not come before. -/
def fieldOnce {α : Type} (name : String) (seen : Option α) (r : Reader α) : Reader (Option α) := do
  if seen.isSome then duplicateField name
  else
    colon
    return some (← r.under (.key name))

/-- Passes over a field that nobody asked for. -/
def otherField (name : String) : Reader Unit := do
  colon
  skip.under (.key name)

/-- The end of an array that has all its elements. -/
def endOfArray : Reader Unit := do
  blanks
  match ← peek? with
  | none => failNext .eofList
  | some ']' => advance
  | some ',' =>
    advance
    blanks
    match ← peek? with
    | some ']' => failNext .trailingComma
    | _ => failNext .trailingCharacters
  | some _ => failNext .trailingCharacters

/-- Folds over the fields of an object, after the opening brace. -/
def fields {σ : Type} (field : σ → String → Reader σ) (s : σ) : Reader σ :=
  items (fun first => (nextKey first).under .unknown) field s

/-- The component schemas: an object with a field `schemas`, or an array of it. -/
def components (budget : Nat) : Reader (List (String × Json)) := do
  blanks
  match ← peek? with
  | none => failNext .eofValue
  | some '\x7b' =>
    advance
    let schemas ← fields
      (fun seen name => do
        if name = "schemas" then fieldOnce name seen (map budget)
        else otherField name; return seen)
      none
    return schemas.getD []
  | some '[' =>
    advance
    match ← nextElement true with
    | none => return []
    | some () =>
      let schemas ← (map budget).under (.index 0)
      endOfArray
      return schemas
  | some _ => mismatch .components

/-- A document: an object with the fields `definitions` and `components`, or an array of them. -/
def document (budget : Nat) : Reader Document := do
  let definitions := nullable (map budget)
  let components := nullable (components (budget - 1))
  blanks
  match ← peek? with
  | none => failNext .eofValue
  | some '\x7b' =>
    advance
    let (seenDefinitions, seenComponents) ← fields
      (fun (seenDefinitions, seenComponents) name => do
        if name = "definitions" then
          return (← fieldOnce name seenDefinitions definitions, seenComponents)
        else if name = "components" then
          return (seenDefinitions, ← fieldOnce name seenComponents components)
        else otherField name; return (seenDefinitions, seenComponents))
      (none, none)
    return ⟨seenDefinitions.join, seenComponents.join⟩
  | some '[' =>
    advance
    match ← nextElement true with
    | none => return ⟨none, none⟩
    | some () =>
      let first ← definitions.under (.index 0)
      match ← nextElement false with
      | none => return ⟨first, none⟩
      | some () =>
        let second ← components.under (.index 1)
        endOfArray
        return ⟨first, second⟩
  | some _ => mismatch .document

end Reader

/-- The records of a document: `definitions` come before `components`. -/
def Document.records? (d : Document) : Option (List (String × Json)) :=
  d.definitions <|> d.components

namespace Schema

/-- Loads the records of a document from the places where records are kept. -/
def detect (text : String) : Except DocumentError Schema :=
  match (Reader.document (nestingLimit - 1)).run (Cursor.ofText text) with
  | .error e => .error (.unreadable e)
  | .ok (d, _) =>
    match d.records? with
    | some pairs => .ok (ofList (Json.unrepeatedEntries pairs))
    | none => .error .noRecords

/-- Loads the records of a document from the place that a pointer selects. -/
def select (text pointer : String) : Except DocumentError Schema :=
  match Json.ofText? text with
  | .error e => .error (.malformed e)
  | .ok j =>
    match Pointer.select j pointer with
    | none => .error (.selectsNothing pointer)
    | some (.obj entries) => .ok (ofList entries)
    | some other => .error (.notRecords other)

/-- Loads the records of a document. -/
def ofDocument (text : String) (pointer : Option String) : Except Error Schema :=
  (match pointer with
    | none => detect text
    | some pointer => select text pointer).mapError .document

end Schema

end SchemaCompiler
