import SchemaCompiler.Json.Value

/-!
# Passing over a value

The value of a key that nobody asked for is checked for its form only.  It may nest to any depth,
its numbers may be out of range and the surrogates in its strings need no partners.
-/

namespace SchemaCompiler.Reader

/-- Passes over one character of a string; none at the closing quote. -/
def skipStringChar : Reader (Option Unit) := do
  match ← peek? with
  | none => failHere .eofString
  | some '"' => advance; return none
  | some '\\' =>
    advance
    match ← peek? with
    | none => failHere .eofString
    | some 'u' =>
      advance
      let _ ← hexCode
      return some ()
    | some c =>
      if (simpleEscape? c).isSome then advance; return some () else failAfter 1 .invalidEscape
  | some c =>
    if c.toNat < 0x20 then failHere .controlCharacter else advance; return some ()

/-- Passes over a string, after its opening quote. -/
def skipString : Reader Unit :=
  items (fun _ => skipStringChar) (fun () () => return ()) ()

/-- Passes over a value that holds no other values. -/
def skipScalar : Reader Unit := do
  match ← peek? with
  | some 'n' => literal "ull"
  | some 't' => literal "rue"
  | some 'f' => literal "alse"
  | some '"' => advance; skipString
  | some c =>
    if c = '-' || c.isDigit then
      let _ ← numeral .invalidNumber
    else failNext .expectedValue
  | none => failNext .expectedValue

/-- Announces the next element of an array, or passes over the closing bracket.  What follows a
comma is left to the element. -/
def skipToElement (first : Bool) : Reader (Option Unit) := do
  blanks
  match ← peek? with
  | none => failNext .eofList
  | some ']' => advance; return none
  | some c =>
    if first then return some ()
    else if c ≠ ',' then failNext .expectedListEnd
    else advance; return some ()

/-- Passes over a key and its colon. -/
def skipKey : Reader Unit := do
  blanks
  match ← peek? with
  | none => failNext .eofObject
  | some '"' => advance; skipString; colon
  | some _ => failNext .expectedKey

/-- Passes over the key and the colon of the next entry of an object, or over the closing brace. -/
def skipToEntry (first : Bool) : Reader (Option Unit) := do
  blanks
  match ← peek? with
  | none => failNext .eofObject
  | some '\x7d' => advance; return none
  | some c =>
    if first then skipKey; return some ()
    else if c ≠ ',' then failNext .expectedObjectEnd
    else advance; skipKey; return some ()

/-- Passes over a value with at most one container inside another for each character of `bound`. -/
def skipWithin (bound : List Char) : Reader Unit := do
  blanks
  match ← peek? with
  | none => failNext .eofValue
  | some '[' =>
    match bound with
    | [] => failNext .tooDeep
    | _ :: bound =>
      advance
      items skipToElement (fun () () => skipWithin bound) ()
  | some '\x7b' =>
    match bound with
    | [] => failNext .tooDeep
    | _ :: bound =>
      advance
      items skipToEntry (fun () () => skipWithin bound) ()
  | some _ => skipScalar

/-- Passes over a value.  No text holds more containers than characters, so that the bound is never
reached. -/
def skip : Reader Unit :=
  fun c => skipWithin c.rest c

end SchemaCompiler.Reader
