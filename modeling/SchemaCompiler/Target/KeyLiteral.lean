/-!
# Keys in generated code

A key of the schema appears in the generated code as a string literal.  The same escapes are valid
in both target languages: quote, backslash, line feed and tab.
-/

namespace SchemaCompiler

/-- How a character of a key is written inside a literal. -/
def literalChar : Char → List Char
  | '"' => ['\\', '"']
  | '\\' => ['\\', '\\']
  | '\n' => ['\\', 'n']
  | '\t' => ['\\', 't']
  | c => [c]

/-- The string literal of a key. -/
def keyLiteral (key : String) : String :=
  String.ofList ('"' :: key.toList.flatMap literalChar ++ ['"'])

end SchemaCompiler
