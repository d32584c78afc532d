import SchemaCompiler.Json.Fault

/-!
# Reading from a text

A `Cursor` is the text still to be read together with its position.  A `Reader` takes what it needs
from the cursor or fails.  Positions count bytes, because a fault is reported at the byte where it
was noticed and that byte may lie inside a character; reading itself goes by characters.

`Reader.items` is the one loop of the reader: strings, arrays and objects are all read as items that
are announced one by one until the closing mark.
-/

namespace SchemaCompiler

/-- What is left of a text, and where that begins. -/
structure Cursor where
  rest : List Char
  position : Position

namespace Cursor

/-- The cursor at the beginning of a text. -/
def ofText (s : String) : Cursor :=
  ⟨s.toList, Position.start⟩

/-- The cursor after the first character. -/
def next (c : Cursor) : Cursor :=
  match c.rest with
  | [] => c
  | ch :: rest => ⟨rest, c.position.past ch⟩

/-- The position so many bytes further on, or the end of the text if that comes before. -/
def positionAfter (p : Position) : List Char → Nat → Position
  | [], _ => p
  | c :: rest, bytes =>
    if c.utf8Size ≤ bytes then positionAfter (p.past c) rest (bytes - c.utf8Size)
    else ⟨p.line, p.column + bytes⟩

/-- The longest run of characters that satisfy `keep`, and the cursor after it. -/
def span (keep : Char → Bool) (c : Cursor) : List Char × Cursor :=
  let run := c.rest.takeWhile keep
  (run, ⟨c.rest.dropWhile keep, run.foldl Position.past c.position⟩)

end Cursor

/-- Takes from a text what it needs, or fails. -/
abbrev Reader := StateT Cursor (Except ReadError)

namespace Reader

variable {α κ σ : Type}

/-- The next character, which stays unread. -/
def peek? : Reader (Option Char) :=
  fun c => .ok (c.rest.head?, c)

/-- Passes over the next character. -/
def advance : Reader Unit :=
  fun c => .ok ((), c.next)

/-- Takes the longest run of characters that satisfy `keep`. -/
def takeWhile (keep : Char → Bool) : Reader (List Char) :=
  fun c => .ok (c.span keep)

/-- Fails at the position so many bytes beyond the cursor. -/
def failAfter (bytes : Nat) (fault : Fault) : Reader α :=
  fun c => .error ⟨[], fault, Cursor.positionAfter c.position c.rest bytes⟩

/-- Fails at the cursor. -/
def failHere (fault : Fault) : Reader α :=
  failAfter 0 fault

/-- Fails just after the next byte, or at the end of the text. -/
def failNext (fault : Fault) : Reader α :=
  failAfter 1 fault

/-- Fails so many bytes before the cursor, on the same line. -/
def failBefore (bytes : Nat) (fault : Fault) : Reader α :=
  fun c => .error ⟨[], fault, ⟨c.position.line, c.position.column - bytes⟩⟩

/-- Reads a value that lies one step inside another. -/
def under (step : PathStep) (r : Reader α) : Reader α :=
  fun c => (r c).mapError (ReadError.under step)

/-- Whether a character is a blank between tokens. -/
def isBlank (c : Char) : Bool :=
  c == ' ' || c == '\n' || c == '\t' || c == '\r'

/-- Passes over blanks. -/
def blanks : Reader Unit := do
  let _ ← takeWhile isBlank

/-- Reads at most one item for each character of `bound`, see `items`. -/
def itemsWithin (next : Bool → Reader (Option κ)) (item : σ → κ → Reader σ) :
    List Char → Bool → σ → Reader σ
  | bound, first, s => do
    match ← next first with
    | none => return s
    | some k =>
      match bound with
      | [] => failHere .eofValue
      | _ :: bound => itemsWithin next item bound false (← item s k)

/-- Folds over items: `next` announces the next one or none after the last, and is told whether it
would be the first; `item` reads it.  An item takes at least one character, so that there are no
more of them than characters left. -/
def items (next : Bool → Reader (Option κ)) (item : σ → κ → Reader σ) (s : σ) : Reader σ :=
  fun c => itemsWithin next item c.rest true s c

end Reader

end SchemaCompiler
