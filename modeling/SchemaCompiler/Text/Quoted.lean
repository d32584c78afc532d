import SchemaCompiler.Text.Invisible

/-!
# Quoted text for messages

Log lines, messages and the dump of the arguments show a text between double quotes.  Quotes and
backslashes are escaped, the usual control characters have their short escapes, and any other
character without a visible form of its own is written by its code point in braces.
-/

namespace SchemaCompiler.Text

/-- The digits of a number in base sixteen, in lower case and without leading zeros. -/
def hexadecimal (n : Nat) : List Char :=
  Nat.toDigits 16 n

/-- How a character is written between double quotes. -/
def escaped (c : Char) : List Char :=
  match c with
  | '\x00' => ['\\', '0']
  | '\t' => ['\\', 't']
  | '\r' => ['\\', 'r']
  | '\n' => ['\\', 'n']
  | '"' => ['\\', '"']
  | '\\' => ['\\', '\\']
  | c =>
    if isInvisible c then ['\\', 'u', '\x7b'] ++ hexadecimal c.toNat ++ ['\x7d'] else [c]

/-- A text between double quotes. -/
def shown (s : String) : String :=
  String.ofList ('"' :: s.toList.flatMap escaped ++ ['"'])

end SchemaCompiler.Text
