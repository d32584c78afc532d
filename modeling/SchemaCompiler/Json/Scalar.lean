import SchemaCompiler.Json.Reader

/-!
# Literals, strings and numbers

The parts of a text that hold no other values.  A number is first read as a `Numeral`, by its
digits, and then evaluated: an integer that fits in 64 bits stays exact; any other number is its
leading digits, as many as fit in 64 bits, times a power of ten.
-/

namespace SchemaCompiler

/-! ### Numerals -/

/-- A number as it is written. -/
structure Numeral where
  negative : Bool
  whole : List Nat
  /-- The digits after the point; none if there is no point. -/
  fraction : List Nat
  /-- Whether the exponent is negative, and its digits. -/
  exponent : Option (Bool × List Nat)

namespace Numeral

/-- Appends digits to a significand as long as it fits in 64 bits; also counts the digits that are
left over. -/
def absorb (significand : Nat) : List Nat → Nat × Nat
  | [] => (significand, 0)
  | d :: rest =>
    if significand * 10 + d < Nat.pow 2 64 then absorb (significand * 10 + d) rest
    else (significand, rest.length + 1)

/-- Exponents above this bound are not evaluated. -/
def maxExponent : Nat := 2147483647

/-- The value of the digits of an exponent, or the number of digits not yet used when it passes the
bound. -/
def exponentValue (value : Nat) : List Nat → Except Nat Nat
  | [] => .ok value
  | d :: rest =>
    if value * 10 + d ≤ maxExponent then exponentValue (value * 10 + d) rest
    else .error rest.length

/-- Gives a non-negative number its sign. -/
def signed (negative : Bool) (x : Binary64) : Number :=
  .float (if negative then x.neg else x)

/-- An integer: exact within `-2 ^ 63` to `2 ^ 64 - 1`, except that `-0` has a sign. -/
def integer (negative : Bool) (n : Nat) : Number :=
  if !negative then .int n
  else if n = 0 ∨ Nat.pow 2 63 < n then signed true (Binary64.round n 1)
  else .int (-n)

/-- The number that is written, or the number of characters before its end at which it is found to
be out of range. -/
def value (n : Numeral) : Except Nat Number :=
  let (leading, droppedWhole) := absorb 0 n.whole
  let (significand, droppedFraction) := absorb leading n.fraction
  let shift : Int := droppedWhole - (n.fraction.length - droppedFraction : Nat)
  let scaled (k : Int) : Except Nat Number :=
    match Binary64.ofDecimal significand k with
    | some x => .ok (signed n.negative x)
    | none => .error 0
  match n.exponent with
  | none =>
    if n.fraction.isEmpty && droppedWhole == 0 then .ok (integer n.negative significand)
    else scaled shift
  | some (negativeExponent, digits) =>
    match exponentValue 0 digits with
    | .ok e => scaled (if negativeExponent then shift - e else shift + e)
    | .error left =>
      if significand ≠ 0 ∧ !negativeExponent then .error left
      else .ok (signed n.negative (Binary64.zero false))

end Numeral

namespace Reader

/-- The digits that stand next. -/
def digits : Reader (List Nat) := do
  return (← takeWhile Char.isDigit).map fun c => c.toNat - '0'.toNat

/-- The digits before the point: a leading zero stands alone. -/
def wholeDigits (cutOff : Fault) : Reader (List Nat) := do
  match ← peek? with
  | none => failHere cutOff
  | some '0' =>
    advance
    match ← peek? with
    | some c => if c.isDigit then failNext .invalidNumber else return [0]
    | none => return [0]
  | some c => if c.isDigit then digits else failAfter 1 .invalidNumber

/-- The point and the digits after it, if there is a point. -/
def fractionDigits (cutOff : Fault) : Reader (List Nat) := do
  match ← peek? with
  | some '.' =>
    advance
    let ds ← digits
    if !ds.isEmpty then return ds
    match ← peek? with
    | none => failHere cutOff
    | some _ => failNext .invalidNumber
  | _ => return []

/-- The sign of an exponent, if it has one: whether it is negative. -/
def exponentSign : Reader Bool := do
  match ← peek? with
  | some '+' => advance; return false
  | some '-' => advance; return true
  | _ => return false

/-- The exponent, if there is one. -/
def exponentPart (cutOff : Fault) : Reader (Option (Bool × List Nat)) := do
  match ← peek? with
  | some 'e' | some 'E' =>
    advance
    let negative ← exponentSign
    match ← peek? with
    | none => failHere cutOff
    | some c => if c.isDigit then return some (negative, ← digits) else failAfter 1 .invalidNumber
  | _ => return none

/-- A number as it is written.  `cutOff` is the fault of a number that the end of the text cuts
off. -/
def numeral (cutOff : Fault) : Reader Numeral := do
  let negative ← do
    match ← peek? with
    | some '-' => advance; pure true
    | _ => pure false
  let whole ← wholeDigits cutOff
  let fraction ← fractionDigits cutOff
  let exponent ← exponentPart cutOff
  return ⟨negative, whole, fraction, exponent⟩

/-- A number. -/
def number : Reader Number := do
  let n ← numeral .eofValue
  match n.value with
  | .ok v => return v
  | .error back => failBefore back .numberOutOfRange

/-! ### Literals -/

/-- The rest of a literal whose first character has been recognised. -/
def literalRest : List Char → Reader Unit
  | [] => return ()
  | expected :: rest => do
    match ← peek? with
    | none => failHere .eofValue
    | some c => if c = expected then advance; literalRest rest else failAfter 1 .expectedLiteral

/-- A literal, by the characters after its first one. -/
def literal (rest : String) : Reader Unit := do
  advance
  literalRest rest.toList

/-! ### Strings -/

/-- The value of a digit in base sixteen, in either case. -/
def hexValue? (c : Char) : Option Nat :=
  if c.isDigit then some (c.toNat - '0'.toNat)
  else if 'a' ≤ c && c ≤ 'f' then some (c.toNat - 'a'.toNat + 10)
  else if 'A' ≤ c && c ≤ 'F' then some (c.toNat - 'A'.toNat + 10)
  else none

/-- The code of four digits in base sixteen. -/
def hexCode? : List Char → Option Nat
  | [a, b, c, d] => do
    return (((← hexValue? a) * 16 + (← hexValue? b)) * 16 + (← hexValue? c)) * 16 + (← hexValue? d)
  | _ => none

/-- Four digits in base sixteen.  The fault is noticed after four bytes. -/
def hexCode : Reader Nat := fun c =>
  match hexCode? (c.rest.take 4) with
  | some n => .ok (n, c.next.next.next.next)
  | none =>
    let bytes := (c.rest.take 4).foldl (fun n ch => n + ch.utf8Size) 0
    failAfter 4 (if bytes < 4 then .eofString else .invalidEscape) c

/-- The character of a one-letter escape. -/
def simpleEscape? : Char → Option Char
  | '"' => some '"'
  | '\\' => some '\\'
  | '/' => some '/'
  | 'b' => some '\x08'
  | 'f' => some '\x0c'
  | 'n' => some '\n'
  | 'r' => some '\r'
  | 't' => some '\t'
  | _ => none

/-- One character of the second half of a surrogate pair's escape. -/
def pairMark (mark : Char) : Reader Unit := do
  match ← peek? with
  | none => failHere .eofString
  | some c => if c = mark then advance else failAfter 1 .unfinishedSurrogate

/-- The character of an escape by its code: a leading surrogate must be followed by the escape of a
trailing one. -/
def codeEscape : Reader Char := do
  let n ← hexCode
  if 0xDC00 ≤ n && n ≤ 0xDFFF then failHere .loneSurrogate
  else if 0xD800 ≤ n && n ≤ 0xDBFF then
    pairMark '\\'
    pairMark 'u'
    let m ← hexCode
    if 0xDC00 ≤ m && m ≤ 0xDFFF then
      return Char.ofNat (0x10000 + (n - 0xD800) * 0x400 + (m - 0xDC00))
    else failHere .loneSurrogate
  else return Char.ofNat n

/-- The character of an escape, after the backslash. -/
def escape : Reader Char := do
  match ← peek? with
  | none => failHere .eofString
  | some 'u' => advance; codeEscape
  | some c =>
    match simpleEscape? c with
    | some e => advance; return e
    | none => failAfter 1 .invalidEscape

/-- One character of a string, or none at the closing quote. -/
def stringChar : Reader (Option Char) := do
  match ← peek? with
  | none => failHere .eofString
  | some '"' => advance; return none
  | some '\\' => advance; return some (← escape)
  | some c =>
    advance
    if c.toNat < 0x20 then failHere .controlCharacter else return some c

/-- A string, after its opening quote. -/
def string : Reader String := do
  let reversed ← items (fun _ => stringChar) (fun acc c => return c :: acc) []
  return String.ofList reversed.reverse

/-! ### Scalars -/

/-- A value that holds no other values. -/
def scalar : Reader Json := do
  match ← peek? with
  | some 'n' => literal "ull"; return .null
  | some 't' => literal "rue"; return .bool true
  | some 'f' => literal "alse"; return .bool false
  | some '"' => advance; return .str (← string)
  | some c => if c = '-' || c.isDigit then return .num (← number) else failNext .expectedValue
  | none => failNext .expectedValue

end Reader

end SchemaCompiler
