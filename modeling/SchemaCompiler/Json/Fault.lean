import SchemaCompiler.Json.Printer
import SchemaCompiler.Text.Quoted

/-!
# What can be wrong with a text

A `Fault` is what is wrong, a `Position` is where in the text it was noticed, and a path says which
value was being read.  The wording of each of them is here and nowhere else.
-/

namespace SchemaCompiler

/-- A place between two bytes of a text: the line, counted from one, and the number of bytes that
stand before it on its line. -/
structure Position where
  line : Nat
  column : Nat
deriving DecidableEq, Repr

namespace Position

/-- The beginning of a text. -/
def start : Position := ⟨1, 0⟩

/-- The position after a character that stands at `p`. -/
def past (p : Position) (c : Char) : Position :=
  if c = '\n' then ⟨p.line + 1, 0⟩ else ⟨p.line, p.column + c.utf8Size⟩

/-- The words that name a position in a message. -/
def text (p : Position) : String :=
  s!"line {p.line} column {p.column}"

end Position

/-- The kinds of value that a place of a document can call for. -/
inductive Wanted where
  | map
  | document
  | components
deriving DecidableEq, Repr

/-- The words for a kind of value that is called for. -/
def Wanted.text : Wanted → String
  | .map => "a map"
  | .document => "struct Document"
  | .components => "struct Components"

/-- The words for a value that is not of the kind called for. -/
def Json.kindText : Json → String
  | .null => "null"
  | .bool b => s!"boolean `{Json.text (.bool b)}`"
  | .num (.int i) => s!"integer `{Number.text (.int i)}`"
  | .num (.float x) => s!"floating point `{Number.text (.float x)}`"
  | .str s => s!"string {Text.shown s}"
  | .arr _ => "sequence"
  | .obj _ => "map"

/-- What is wrong with a text. -/
inductive Fault where
  | eofValue
  | eofList
  | eofObject
  | eofString
  | expectedValue
  | expectedColon
  | expectedListEnd
  | expectedObjectEnd
  | expectedKey
  | expectedLiteral
  | trailingComma
  | trailingCharacters
  | invalidNumber
  | numberOutOfRange
  | invalidEscape
  | controlCharacter
  | loneSurrogate
  | unfinishedSurrogate
  | tooDeep
  | mismatch (found : Json) (wanted : Wanted)
  | duplicateField (name : String)

/-- The wording of a fault. -/
def Fault.message : Fault → String
  | .eofValue => "EOF while parsing a value"
  | .eofList => "EOF while parsing a list"
  | .eofObject => "EOF while parsing an object"
  | .eofString => "EOF while parsing a string"
  | .expectedValue => "expected value"
  | .expectedColon => "expected `:`"
  | .expectedListEnd => "expected `,` or `]`"
  | .expectedObjectEnd => "expected `,` or `\x7d`"
  | .expectedKey => "key must be a string"
  | .expectedLiteral => "expected ident"
  | .trailingComma => "trailing comma"
  | .trailingCharacters => "trailing characters"
  | .invalidNumber => "invalid number"
  | .numberOutOfRange => "number out of range"
  | .invalidEscape => "invalid escape"
  | .controlCharacter => "control character (\\u0000-\\u001F) found while parsing a string"
  | .loneSurrogate => "lone leading surrogate in hex escape"
  | .unfinishedSurrogate => "unexpected end of hex escape"
  | .tooDeep => "recursion limit exceeded"
  | .mismatch found wanted => s!"invalid type: {found.kindText}, expected {wanted.text}"
  | .duplicateField name => s!"duplicate field `{name}`"

/-- One step from a value to a value inside it. -/
inductive PathStep where
  | key (name : String)
  | index (i : Nat)
  /-- The entry whose key could not be read. -/
  | unknown
deriving DecidableEq, Repr

/-- The text of a step, and whether a dot sets it off from the step before. -/
def PathStep.text : PathStep → String × Bool
  | .key name => (name, true)
  | .index i => (s!"[{i}]", false)
  | .unknown => ("?", true)

/-- The text of a path: steps set off by dots, a lone dot for the whole document. -/
def pathText : List PathStep → String
  | [] => "."
  | step :: rest =>
    step.text.1 ++ String.join (rest.map fun s => (if s.text.2 then "." else "") ++ s.text.1)

/-- A text could not be read. -/
structure ReadError where
  /-- The way from the whole document to the value that was being read. -/
  path : List PathStep
  fault : Fault
  position : Position

namespace ReadError

/-- The same error, seen from a value that holds the one where it happened. -/
def under (step : PathStep) (e : ReadError) : ReadError :=
  { e with path := step :: e.path }

/-- What is wrong and where in the text. -/
def text (e : ReadError) : String :=
  s!"{e.fault.message} at {e.position.text}"

end ReadError

end SchemaCompiler
