import SchemaCompiler.Naming
import SchemaCompiler.Record.Basic
import SchemaCompiler.Target.KeyLiteral
import SchemaCompiler.Text.Pieces

/-!
# Rust modules

Each record becomes a struct with an implementation of the conversion trait that the opening of the
module declares.  A serialiser writes every field under its key; a deserialiser sets the fields
whose key is there with a value that is not empty.
-/

namespace SchemaCompiler.RustModule

/-! ### Identifiers -/

/-- Words that are identifiers only in their raw form. -/
def keywords : List String :=
  ["as", "async", "await", "break", "const", "continue", "dyn", "else", "enum", "extern", "false",
   "fn", "for", "gen", "if", "impl", "in", "let", "loop", "match", "mod", "move", "mut", "pub",
   "ref", "return", "static", "struct", "trait", "true", "type", "unsafe", "use", "where",
   "while", "abstract", "become", "box", "do", "final", "macro", "override", "priv", "try",
   "typeof", "unsized", "virtual", "yield"]

/-- Words that are no identifiers, not even in a raw form. -/
def reserved : List String :=
  ["self", "Self", "super", "crate", "_"]

/-- Type names that the module uses itself. -/
def takenTypes : List String :=
  ["Map", "Value", "JsonModel", "Vec", "String", "Option", "Result", "Box", "Default", "Clone",
   "PartialEq", "Sized", "Ok", "Err", "Some", "None"]

/-- The type identifier of a record. -/
def typeIdent (record : String) : String :=
  let name := Naming.identifier (Naming.typeName record)
  if name ∈ reserved ∨ name ∈ takenTypes then name ++ "_" else name

/-- The member identifier of a key. -/
def memberIdent (key : String) : String :=
  let name := Naming.identifier (Naming.memberName key)
  if name ∈ reserved then name ++ "_"
  else if name ∈ keywords then "r#" ++ name
  else name

/-! ### Types -/

/-- The spelling of an integer type. -/
def integerType : IntWidth → String
  | .unspecified => "i32"
  | .int16 => "i16"
  | .uint16 => "u16"
  | .int32 => "i32"
  | .uint32 => "u32"
  | .int64 => "i64"
  | .uint64 => "u64"

/-- The spelling of a type. -/
def spelling : FieldType → String
  | .string => "String"
  | .float => "f32"
  | .double => "f64"
  | .integer width => integerType width
  | .boolean => "bool"
  | .array item => "Vec<" ++ spelling item ++ ">"
  | .object => "Value"
  | .record name => typeIdent name

/-! ### Framing -/

/-- The conversion trait, its instances for the built-in types, and the test for empty values. -/
def support : List String :=
  ["    use serde_json::\x7bMap, Value\x7d;",
   "",
   "    /// Conversion to and from `serde_json::Value`.",
   "    pub trait JsonModel: Sized \x7b",
   "        fn to_json(&self) -> Value;",
   "        fn from_json(j: &Value) -> Result<Self, serde_json::Error>;",
   "    \x7d",
   "",
   "    macro_rules! json_scalar \x7b",
   "        ($($t:ty),*) => \x7b$(",
   "            impl JsonModel for $t \x7b",
   "                fn to_json(&self) -> Value \x7b",
   "                    Value::from(self.clone())",
   "                \x7d",
   "",
   "                fn from_json(j: &Value) -> Result<Self, serde_json::Error> \x7b",
   "                    <$t as serde::Deserialize>::deserialize(j)",
   "                \x7d",
   "            \x7d",
   "        )*\x7d;",
   "    \x7d",
   "",
   "    json_scalar!(String, bool, f32, f64, i16, u16, i32, u32, i64, u64);",
   "",
   "    impl<T: JsonModel> JsonModel for Vec<T> \x7b",
   "        fn to_json(&self) -> Value \x7b",
   "            Value::Array(self.iter().map(JsonModel::to_json).collect())",
   "        \x7d",
   "",
   "        fn from_json(j: &Value) -> Result<Self, serde_json::Error> \x7b",
   "            match j \x7b",
   "                Value::Array(items) => items.iter().map(T::from_json).collect(),",
   "                _ => Err(serde::de::Error::custom(\"expected an array\")),",
   "            \x7d",
   "        \x7d",
   "    \x7d",
   "",
   "    impl JsonModel for Value \x7b",
   "        fn to_json(&self) -> Value \x7b",
   "            self.clone()",
   "        \x7d",
   "",
   "        fn from_json(j: &Value) -> Result<Self, serde_json::Error> \x7b",
   "            Ok(j.clone())",
   "        \x7d",
   "    \x7d",
   "",
   "    fn is_empty(j: &Value) -> bool \x7b",
   "        match j \x7b",
   "            Value::Null => true,",
   "            Value::Array(items) => items.is_empty(),",
   "            Value::Object(map) => map.is_empty(),",
   "            _ => false,",
   "        \x7d",
   "    \x7d"]

/-- What opens a module, after the banner. -/
def opening (space : String) : List String :=
  ["",
   "#[allow(non_camel_case_types, non_snake_case, unused_mut, unused_imports, dead_code)]",
   "pub mod " ++ space ++ " \x7b"] ++ support

/-- What closes a module. -/
def closing : List String :=
  ["\x7d"]

/-! ### Records -/

/-- The lines of a record around those of its members and of its two conversions. -/
def frame (type : String) (members writing reading : List String) : List String :=
  ["",
   "    #[derive(Debug, Clone, Default, PartialEq)]",
   "    pub struct " ++ type ++ " \x7b"] ++
  members ++
  ["    \x7d",
   "",
   "    impl JsonModel for " ++ type ++ " \x7b",
   "        fn to_json(&self) -> Value \x7b"] ++
  writing ++
  ["        \x7d",
   "",
   "        fn from_json(j: &Value) -> Result<Self, serde_json::Error> \x7b"] ++
  reading ++
  ["        \x7d",
   "    \x7d"]

/-- A record with a single value. -/
def wrapper (type : String) (value : FieldType) : List String :=
  frame type
    ["        pub value: " ++ spelling value ++ ","]
    ["            self.value.to_json()"]
    ["            Ok(Self \x7b value: JsonModel::from_json(j)? \x7d)"]

/-- The declaration of a field. -/
def declaration (f : Field) : String :=
  "        pub " ++ memberIdent f.key ++ ": " ++ spelling f.type ++ ","

/-- The line that writes a field. -/
def writing (f : Field) : String :=
  "            j.insert(" ++ keyLiteral f.key ++ ".to_owned(), self." ++ memberIdent f.key ++
    ".to_json());"

/-- The lines that read a field. -/
def reading (f : Field) : List String :=
  ["            if let Some(v) = j.get(" ++ keyLiteral f.key ++ ").filter(|v| !is_empty(v)) \x7b",
   "                r." ++ memberIdent f.key ++ " = JsonModel::from_json(v)?;",
   "            \x7d"]

/-- A record with fields. -/
def fields (type : String) (fs : List Field) : List String :=
  frame type
    (fs.map declaration)
    (["            let mut j = Map::new();"] ++ fs.map writing ++ ["            Value::Object(j)"])
    (["            let mut r = Self::default();"] ++ fs.flatMap reading ++ ["            Ok(r)"])

/-- The lines of a record. -/
def recordLines (r : Record) : List String :=
  match r.body with
  | .wrapper value => wrapper (typeIdent r.name) value
  | .fields fs => fields (typeIdent r.name) fs

end SchemaCompiler.RustModule
