import SchemaCompiler.Json.Basic
import SchemaCompiler.Text.Pieces

/-!
# Pointers into a value

A pointer is a text of steps, each set off by a slash.  In a step, `~1` stands for a slash and `~0`
for a tilde.  A step selects the entry of an object with that key, or the element of an array at
that index; an index has no sign and no leading zero.
-/

namespace SchemaCompiler.Pointer

/-- Replaces each tilde that is followed by `mark` by `c`, from left to right. -/
def replaceTilde (mark c : Char) : List Char → List Char
  | '~' :: d :: rest =>
    if d = mark then c :: replaceTilde mark c rest else '~' :: replaceTilde mark c (d :: rest)
  | d :: rest => d :: replaceTilde mark c rest
  | [] => []

/-- The step that a part of a pointer stands for: slashes are put back first, then tildes. -/
def unescape (part : List Char) : String :=
  String.ofList (replaceTilde '0' '~' (replaceTilde '1' '/' part))

/-- The steps of a pointer: none for the empty pointer; any other one starts with a slash. -/
def steps? (pointer : String) : Option (List String) :=
  match pointer.toList with
  | [] => some []
  | '/' :: rest => some ((Text.cut '/' rest).map unescape)
  | _ => none

/-- An array index: decimal digits without a sign and without a leading zero. -/
def index? (step : String) : Option Nat :=
  match step.toList with
  | [] => none
  | ['0'] => some 0
  | '0' :: _ => none
  | cs =>
    if cs.all Char.isDigit then some (cs.foldl (fun n c => n * 10 + (c.toNat - '0'.toNat)) 0)
    else none

/-- One step into a value. -/
def enter (j : Json) (step : String) : Option Json :=
  match j with
  | .obj entries => Entries.get? entries step
  | .arr items => (index? step).bind fun i => items[i]?
  | _ => none

/-- The value that a pointer selects. -/
def select (j : Json) (pointer : String) : Option Json :=
  (steps? pointer).bind fun steps => steps.foldlM enter j

end SchemaCompiler.Pointer
