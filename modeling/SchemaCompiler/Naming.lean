import SchemaCompiler.Text.CaseMapping

/-!
# Names of the generated code

A record's name becomes a type name and a field's key becomes a member name by the same rule:
hyphens turn into underscores, and the first character changes case.  `identifier` then makes any
text an identifier of the alphabet that both target languages share.  Which identifiers are taken
is a matter of the target.
-/

namespace SchemaCompiler.Naming

/-- A hyphen is written as an underscore; every other character stands for itself. -/
def underscored (c : Char) : Char :=
  if c = '-' then '_' else c

/-- Maps the first character of a name by `recase` and turns all hyphens into underscores. -/
def recased (recase : Char → List Char) (name : String) : String :=
  match name.toList.map underscored with
  | [] => ""
  | first :: rest => String.ofList (recase first ++ rest)

/-- The type name of a record: `sensor-config` becomes `Sensor_config`. -/
def typeName (record : String) : String :=
  recased Text.uppercase record

/-- The member name of a key: `OAuth-server` becomes `oAuth_server`. -/
def memberName (key : String) : String :=
  recased Text.lowercase key

/-- The characters of identifiers: letters, digits and the underscore of ASCII. -/
def isIdentifierChar (c : Char) : Bool :=
  c.isAlphanum || c == '_'

/-- Every character that cannot stand in an identifier becomes an underscore, and an underscore goes
in front where the result would be empty or start with a digit. -/
def identifier (name : String) : String :=
  match name.toList.map fun c => if isIdentifierChar c then c else '_' with
  | [] => "_"
  | first :: rest =>
    String.ofList (if first.isDigit then '_' :: first :: rest else first :: rest)

end SchemaCompiler.Naming
