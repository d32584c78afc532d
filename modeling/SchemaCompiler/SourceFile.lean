import SchemaCompiler.Target.Basic

/-!
# Source files

Records become the units of a source file, in the order in which they are given.  What emission
needs to know of the target language is a `Backend`.  Before any text is made,
`Backend.checkIdentifiers` makes sure that no two records have the same type identifier and no two
keys of a record the same member identifier; the first clash, records and keys taken in order and
the type of a record before its members, is the error.

A file is taken as one text or written part by part (`SourceFile.text_eq_concat_chunks`).
-/

namespace SchemaCompiler

/-- The text of one record. -/
structure SourceUnit where
  record : String
  text : String
deriving DecidableEq, Repr

/-- A generated file. -/
structure SourceFile where
  prologue : String
  units : List SourceUnit
  epilogue : String
deriving DecidableEq, Repr

namespace SourceFile

/-- The parts of a file in the order in which they are written. -/
def chunks (f : SourceFile) : List String :=
  f.prologue :: f.units.map SourceUnit.text ++ [f.epilogue]

/-- The whole text of a file: the text of each record is appended to what comes before it. -/
def text (f : SourceFile) : String :=
  f.units.foldl (fun out unit => out ++ unit.text) f.prologue ++ f.epilogue

/-- The parts, written one after the other, are the whole text. -/
theorem text_eq_concat_chunks (f : SourceFile) : f.text = Text.concat f.chunks := by
  rw [text, chunks, Text.foldl_append, Text.concat_append, Text.concat, Text.concat_singleton]

end SourceFile

/-- What emission needs to know of a target language. -/
structure Backend where
  /-- The type identifier of a record. -/
  typeIdent : String → String
  /-- The member identifier of a key. -/
  memberIdent : String → String
  /-- The text before the records, in a namespace. -/
  prologue : String → String
  /-- The text after the records, in a namespace. -/
  epilogue : String → String
  /-- The text of a record. -/
  recordText : Record → String

namespace Backend

/-- The first of the names seen so far that has the same identifier as `name`. -/
def clash? (ident : String → String) (seen : List String) (name : String) : Option String :=
  seen.find? fun earlier => ident earlier == ident name

/-- Whether the keys of a record have distinct member identifiers, after the keys already seen. -/
def checkMembers (b : Backend) (record : String) (seen : List String) :
    List Field → Except Error Unit
  | [] => .ok ()
  | f :: rest =>
    match clash? b.memberIdent seen f.key with
    | some first => .error (.memberCollision record (b.memberIdent f.key) first f.key)
    | none => checkMembers b record (seen ++ [f.key]) rest

/-- Whether records have distinct type identifiers, after the records already seen, and each of them
distinct member identifiers. -/
def checkRecords (b : Backend) (seen : List String) : List Record → Except Error Unit
  | [] => .ok ()
  | r :: rest =>
    match clash? b.typeIdent seen r.name with
    | some first => .error (.typeCollision (b.typeIdent r.name) first r.name)
    | none => do
      b.checkMembers r.name [] r.fields
      checkRecords b (seen ++ [r.name]) rest

/-- Whether no two records and no two keys of a record have the same identifier. -/
def checkIdentifiers (b : Backend) (rs : List Record) : Except Error Unit :=
  b.checkRecords [] rs

/-- The file of a list of records. -/
def emit (b : Backend) (space : String) (rs : List Record) : Except Error SourceFile := do
  b.checkIdentifiers rs
  return {
    prologue := b.prologue space
    units := rs.map fun r => ⟨r.name, b.recordText r⟩
    epilogue := b.epilogue space }

end Backend

namespace Target

/-- What emission needs to know of a target. -/
def backend (t : Target) : Backend where
  typeIdent := t.typeIdent
  memberIdent := t.memberIdent
  prologue := t.prologue
  epilogue _ := t.epilogue
  recordText := t.recordText

/-- Whether no two records and no two keys of a record have the same identifier in a target. -/
def checkIdentifiers (t : Target) (rs : List Record) : Except Error Unit :=
  t.backend.checkIdentifiers rs

/-- The file of a list of records in a target. -/
def emit (t : Target) (space : String) (rs : List Record) : Except Error SourceFile :=
  t.backend.emit space rs

end Target

end SchemaCompiler
