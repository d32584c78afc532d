import SchemaCompiler.Naming
import SchemaCompiler.Record.Basic
import SchemaCompiler.Target.KeyLiteral
import SchemaCompiler.Text.Pieces

/-!
# C++ headers

Each record becomes a class with two friend functions that convert it to and from a generic JSON
value.  A serialiser writes every field under its key; a deserialiser sets the fields whose key is
there with a value that is not empty.  A macro may be invoked at the end of each class.
-/

namespace SchemaCompiler.CppHeader

/-! ### Identifiers -/

/-- Words that are no identifiers. -/
def keywords : List String :=
  ["alignas", "alignof", "and", "and_eq", "asm", "auto", "bitand", "bitor", "bool", "break",
   "case", "catch", "char", "class", "compl", "concept", "const", "consteval", "constexpr",
   "constinit", "const_cast", "continue", "co_await", "co_return", "co_yield", "decltype",
   "default", "delete", "do", "double", "dynamic_cast", "else", "enum", "explicit", "export",
   "extern", "false", "float", "for", "friend", "goto", "if", "inline", "int", "long", "mutable",
   "namespace", "new", "noexcept", "not", "not_eq", "nullptr", "operator", "or", "or_eq",
   "private", "protected", "public", "register", "reinterpret_cast", "requires", "return",
   "short", "signed", "sizeof", "static", "static_assert", "static_cast", "struct", "switch",
   "template", "this", "thread_local", "throw", "true", "try", "typedef", "typeid", "typename",
   "union", "unsigned", "using", "virtual", "void", "volatile", "wchar_t", "while", "xor",
   "xor_eq"]

/-- The type identifier of a record. -/
def typeIdent (record : String) : String :=
  Naming.identifier (Naming.typeName record)

/-- The member identifier of a key. -/
def memberIdent (key : String) : String :=
  let name := Naming.identifier (Naming.memberName key)
  if name ∈ keywords then name ++ "_" else name

/-! ### Types -/

/-- The spelling of an integer type. -/
def integerType : IntWidth → String
  | .unspecified => "int"
  | .int16 => "int16_t"
  | .uint16 => "uint16_t"
  | .int32 => "int32_t"
  | .uint32 => "uint32_t"
  | .int64 => "int64_t"
  | .uint64 => "uint64_t"

/-- The spelling of a type. -/
def spelling : FieldType → String
  | .string => "std::string"
  | .float => "float"
  | .double => "double"
  | .integer width => integerType width
  | .boolean => "bool"
  | .array item => "std::vector<" ++ spelling item ++ ">"
  | .object => "json"
  | .record name => typeIdent name

/-! ### Framing -/

/-- What opens a header, after the banner. -/
def opening (space : String) : List String :=
  ["", "namespace " ++ space ++ " \x7b", ""]

/-- What closes a header. -/
def closing : List String :=
  ["\x7d // end namespace"]

/-! ### Records -/

/-- The lines of a class around those of its members and of its two conversions. -/
def frame (dumpMacro : Option String) (type : String)
    (members writing reading : List String) : List String :=
  ["",
   "class " ++ type ++ " \x7b",
   "public:"] ++
  members ++
  ["",
   "    friend void to_json(json &j, const " ++ type ++ " &r) \x7b"] ++
  writing ++
  ["    \x7d;",
   "",
   "    friend void from_json(const json &j, " ++ type ++ " &r) \x7b"] ++
  reading ++
  ["    \x7d;"] ++
  (match dumpMacro with
    | some dump => ["", "    " ++ dump ++ "()"]
    | none => []) ++
  ["\x7d;"]

/-- A class with a single value. -/
def wrapper (dumpMacro : Option String) (type : String) (value : FieldType) : List String :=
  frame dumpMacro type
    ["    " ++ spelling value ++ " value;"]
    ["        j = r.value;"]
    ["        r.value = j.get<" ++ spelling value ++ ">();"]

/-- The declaration of a field. -/
def declaration (f : Field) : String :=
  "    " ++ spelling f.type ++ " " ++ memberIdent f.key ++ ";"

/-- The line that writes a field. -/
def writing (f : Field) : String :=
  "        j[" ++ keyLiteral f.key ++ "] = r." ++ memberIdent f.key ++ ";"

/-- The line that reads a field. -/
def reading (f : Field) : String :=
  let key := keyLiteral f.key
  "        if (j.contains(" ++ key ++ ") and !j.at(" ++ key ++ ").empty()) \x7br." ++
    memberIdent f.key ++ " = j.at(" ++ key ++ ").get<" ++ spelling f.type ++ ">();\x7d"

/-- A class with fields. -/
def fields (dumpMacro : Option String) (type : String) (fs : List Field) : List String :=
  frame dumpMacro type (fs.map declaration) (fs.map writing) (fs.map reading)

/-- The lines of a record. -/
def recordLines (dumpMacro : Option String) (r : Record) : List String :=
  match r.body with
  | .wrapper value => wrapper dumpMacro (typeIdent r.name) value
  | .fields fs => fields dumpMacro (typeIdent r.name) fs

end SchemaCompiler.CppHeader
