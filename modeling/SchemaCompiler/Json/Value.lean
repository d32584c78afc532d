import SchemaCompiler.Json.Scalar

/-!
# Reading a value

Values nest up to a limit: `Reader.value budget` may still open `budget` containers inside each
other.  A whole document may hold `nestingLimit` of them, its outermost one included.

The reader keeps every entry as it stands; `Json.ofText?` leaves out repeated keys.
-/

namespace SchemaCompiler

/-- How many containers may be open at once. -/
def nestingLimit : Nat := 127

namespace Reader

/-- Announces the next element of an array, or passes over the closing bracket. -/
def nextElement (first : Bool) : Reader (Option Unit) := do
  blanks
  match ← peek? with
  | none => failNext .eofList
  | some ']' => advance; return none
  | some c =>
    if first then return some ()
    else if c ≠ ',' then failNext .expectedListEnd
    else
      advance
      blanks
      match ← peek? with
      | none => failNext .eofValue
      | some ']' => failNext .trailingComma
      | some _ => return some ()

/-- The key that must stand next. -/
def key : Reader String := do
  match ← peek? with
  | some '"' => advance; string
  | _ => failNext .expectedKey

/-- The key of the next entry of an object, or none after passing over the closing brace. -/
def nextKey (first : Bool) : Reader (Option String) := do
  blanks
  match ← peek? with
  | none => failNext .eofObject
  | some '\x7d' => advance; return none
  | some c =>
    if first then return some (← key)
    else if c ≠ ',' then failNext .expectedObjectEnd
    else
      advance
      blanks
      match ← peek? with
      | none => failNext .eofValue
      | some '\x7d' => failNext .trailingComma
      | some _ => return some (← key)

/-- The colon between a key and its value. -/
def colon : Reader Unit := do
  blanks
  match ← peek? with
  | none => failNext .eofObject
  | some ':' => advance
  | some _ => failNext .expectedColon

/-- The elements of an array, after the opening bracket. -/
def elements (value : Reader Json) : Reader (List Json) := do
  let reversed ← items nextElement
    (fun acc () => do return (← value.under (.index acc.length)) :: acc) []
  return reversed.reverse

/-- The entries of an object as they stand, after the opening brace. -/
def pairs (value : Reader Json) : Reader (List (String × Json)) := do
  let reversed ← items (fun first => (nextKey first).under .unknown)
    (fun acc k => do
      colon
      return (k, ← value.under (.key k)) :: acc) []
  return reversed.reverse

/-- A value with at most `budget` containers inside each other. -/
def value (budget : Nat) : Reader Json := do
  blanks
  match ← peek? with
  | none => failNext .eofValue
  | some '[' =>
    match budget with
    | 0 => failNext .tooDeep
    | budget + 1 =>
      advance
      return .arr (← elements (value budget))
  | some '\x7b' =>
    match budget with
    | 0 => failNext .tooDeep
    | budget + 1 =>
      advance
      return .obj (← pairs (value budget))
  | some _ => scalar

/-- A value that is the whole text, blanks around it apart. -/
def whole (value : Reader Json) : Reader Json := do
  let v ← value
  blanks
  match ← peek? with
  | none => return v
  | some _ => failNext .trailingCharacters

end Reader

namespace Json

/-- Reads a text that is one value, every entry as it stands. -/
def rawOfText? (s : String) (limit : Nat := nestingLimit) : Except ReadError Json :=
  ((Reader.whole (Reader.value limit)).run (Cursor.ofText s)).map Prod.fst

/-- Reads a text that is one value. -/
def ofText? (s : String) (limit : Nat := nestingLimit) : Except ReadError Json :=
  (rawOfText? s limit).map unrepeated

end Json

end SchemaCompiler
