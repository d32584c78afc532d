import SchemaCompiler.Decimal.Shortest
import SchemaCompiler.Json.Basic

/-!
# Compact JSON text

The text of a value without blanks, object entries in order.  Strings escape quotes, backslashes and
control characters only.  A number that is not an integer has the fewest digits that read back: it
is written positionally, with at least one digit after the point, if its first digit stands for
`10 ^ e` with `-5 ≤ e < 16`, and with an exponent otherwise.
-/

namespace SchemaCompiler

/-- Which powers of ten a positional number may start with, and the marks before the digits of a
positive and of a negative exponent. -/
structure FloatLayout where
  minPositional : Int
  endPositional : Int
  positiveMark : String
  negativeMark : String

/-- Positional from `0.00001` to below `10 ^ 16`; exponents as in `1e+16` and `1e-7`. -/
def Json.floatLayout : FloatLayout :=
  ⟨-5, 16, "e+", "e-"⟩

namespace FloatLayout

/-- A positive decimal number by its digits and the power of ten of the first of them. -/
def positional (digits : List Char) (first : Int) : List Char :=
  if first < 0 then
    ['0', '.'] ++ List.replicate (-first - 1).toNat '0' ++ digits
  else
    let whole := first.toNat + 1
    let fraction := digits.drop whole
    digits.take whole ++ List.replicate (whole - digits.length) '0' ++ ['.'] ++
      (if fraction.isEmpty then ['0'] else fraction)

/-- A positive decimal number with an exponent. -/
def scientific (f : FloatLayout) (digits : List Char) (first : Int) : List Char :=
  let fraction := digits.drop 1
  let mark := if first < 0 then f.negativeMark else f.positiveMark
  digits.take 1 ++ (if fraction.isEmpty then [] else '.' :: fraction) ++ mark.toList ++
    Nat.toDigits 10 first.natAbs

/-- The text of a finite number. -/
def write (f : FloatLayout) (x : Binary64) : String :=
  let sign := if x.negative then ['-'] else []
  if x.mantissa = 0 then String.ofList (sign ++ ['0', '.', '0'])
  else
    let d := x.shortest
    let digits := Nat.toDigits 10 d.coefficient
    let first := d.exponent + digits.length - 1
    if f.minPositional ≤ first ∧ first < f.endPositional then
      String.ofList (sign ++ positional digits first)
    else String.ofList (sign ++ f.scientific digits first)

end FloatLayout

/-- The text of a number. -/
def Number.text : Number → String
  | .int i => String.ofList ((if i < 0 then ['-'] else []) ++ Nat.toDigits 10 i.natAbs)
  | .float x => Json.floatLayout.write x

namespace Json

/-- How a character is written inside a string. -/
def escapedChar (c : Char) : List Char :=
  match c with
  | '"' => ['\\', '"']
  | '\\' => ['\\', '\\']
  | '\x08' => ['\\', 'b']
  | '\x0c' => ['\\', 'f']
  | '\n' => ['\\', 'n']
  | '\r' => ['\\', 'r']
  | '\t' => ['\\', 't']
  | c =>
    if c.toNat < 0x20 then
      ['\\', 'u', '0', '0', Nat.digitChar (c.toNat / 16), Nat.digitChar (c.toNat % 16)]
    else [c]

/-- The text of a string. -/
def stringText (s : String) : String :=
  String.ofList ('"' :: s.toList.flatMap escapedChar ++ ['"'])

mutual

/-- The compact text of a value. -/
def text : Json → String
  | null => "null"
  | bool b => if b then "true" else "false"
  | num n => n.text
  | str s => stringText s
  | arr items => "[" ++ String.intercalate "," (itemTexts items) ++ "]"
  | obj entries => "\x7b" ++ String.intercalate "," (entryTexts entries) ++ "\x7d"

/-- The texts of the items of an array. -/
def itemTexts : List Json → List String
  | [] => []
  | j :: rest => text j :: itemTexts rest

/-- The texts of the entries of an object. -/
def entryTexts : Entries Json → List String
  | [] => []
  | (key, j) :: rest => (stringText key ++ ":" ++ text j) :: entryTexts rest

end

end Json

end SchemaCompiler
