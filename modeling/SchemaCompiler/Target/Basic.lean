import SchemaCompiler.Target.CppHeader
import SchemaCompiler.Target.RustModule

/-!
# Targets

What a target language decides about generated code: identifiers, the spelling of types, the framing
of a file, and the text of a record.
-/

namespace SchemaCompiler

/-- The language to emit. -/
inductive Target where
  | rust
  /-- C++, with a macro to invoke at the end of each class if one is given. -/
  | cpp (dumpMacro : Option String)
deriving DecidableEq, Repr

namespace Target

/-- The namespace of a file unless another one is asked for. -/
def defaultSpace : Target → String
  | rust => "models"
  | cpp _ => "amber_models"

/-- The type identifier of a record. -/
def typeIdent : Target → String → String
  | rust => RustModule.typeIdent
  | cpp _ => CppHeader.typeIdent

/-- The member identifier of a key. -/
def memberIdent : Target → String → String
  | rust => RustModule.memberIdent
  | cpp _ => CppHeader.memberIdent

/-- The spelling of a type. -/
def spelling : Target → FieldType → String
  | rust => RustModule.spelling
  | cpp _ => CppHeader.spelling

/-- The comment at the top of every file. -/
def banner : List String :=
  ["//", "// autogenerated file.  do not edit directly", "//"]

/-- The text before the records. -/
def prologue (t : Target) (space : String) : String :=
  Text.unlines (banner ++
    match t with
    | rust => RustModule.opening space
    | cpp _ => CppHeader.opening space)

/-- The text after the records. -/
def epilogue : Target → String
  | rust => Text.unlines RustModule.closing
  | cpp _ => Text.unlines CppHeader.closing

/-- The text of a record: its declaration and its two conversions. -/
def recordText (t : Target) (r : Record) : String :=
  Text.unlines <| match t with
    | rust => RustModule.recordLines r
    | cpp dumpMacro => CppHeader.recordLines dumpMacro r

end Target

end SchemaCompiler
