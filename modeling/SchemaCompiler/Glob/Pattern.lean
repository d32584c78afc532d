/-!
# File name patterns

`?` stands for one character, `*` for any run of them, `[…]` for one of a class and `[!…]` for one
that is not of the class; every other character stands for itself.  `**` is allowed as a whole part
of a path only, where it stands for any number of directories.
-/

namespace SchemaCompiler.Glob

/-- The characters from `first` to `last`. -/
structure CharRange where
  first : Char
  last : Char
deriving DecidableEq, Repr

/-- Whether a character lies in a range. -/
def CharRange.holds (r : CharRange) (c : Char) : Bool :=
  r.first ≤ c && c ≤ r.last

/-- A part of a pattern. -/
inductive Token where
  | char (c : Char)
  | anyChar
  | anyRun
  | anyOf (ranges : List CharRange)
  | noneOf (ranges : List CharRange)
  /-- Any number of directories. -/
  | anyDepth
deriving DecidableEq, Repr

/-- A pattern. -/
abbrev Pattern := List Token

/-- What is wrong with a pattern. -/
inductive PatternFault where
  | tooManyStars
  | depthNotAlone
  | badClass
deriving DecidableEq, Repr

/-- What is wrong with a pattern, and at which character. -/
structure PatternError where
  position : Nat
  fault : PatternFault
deriving DecidableEq, Repr

/-- The wording of a pattern error. -/
def PatternError.message (e : PatternError) : String :=
  let text := match e.fault with
    | .tooManyStars => "wildcards are either regular `*` or recursive `**`"
    | .depthNotAlone => "recursive wildcards must form a single path component"
    | .badClass => "invalid range pattern"
  s!"Pattern syntax error near position {e.position}: {text}"

/-- The ranges of a class: `a-z` is a range, any other character a range of its own. -/
def classRanges : List Char → List CharRange
  | a :: '-' :: b :: rest => ⟨a, b⟩ :: classRanges rest
  | a :: rest => ⟨a, a⟩ :: classRanges rest
  | [] => []

/-- Splits what follows an opening bracket at the closing one.  The class has at least one
character, so that a closing bracket may be the first of it. -/
def splitClass : List Char → Option (List Char × List Char)
  | [] => none
  | c :: rest =>
    if ']' ∈ rest then
      some (c :: rest.takeWhile (· ≠ ']'), (rest.dropWhile (· ≠ ']')).drop 1)
    else none

/-- The token of a class, after its opening bracket, and what follows it. -/
def classToken : List Char → Option (Token × List Char)
  | '!' :: rest =>
    (splitClass rest).map fun (members, rest) => (.noneOf (classRanges members), rest)
  | rest =>
    (splitClass rest).map fun (members, rest) => (.anyOf (classRanges members), rest)

/-- Reads a pattern of at most `fuel` tokens.  `position` counts the characters before the text, and
`previous` is the last of them. -/
def tokensUpTo : Nat → Nat → Option Char → List Char → Except PatternError Pattern
  | 0, _, _, _ => .ok []
  | _, _, _, [] => .ok []
  | fuel + 1, position, previous, c :: rest =>
    let after (used : Nat) (token : Token) (last : Char) (rest : List Char) :
        Except PatternError Pattern :=
      (tokensUpTo fuel (position + used) (some last) rest).map (token :: ·)
    match c with
    | '?' => after 1 .anyChar c rest
    | '*' =>
      match rest with
      | '*' :: '*' :: _ => .error ⟨position + 2, .tooManyStars⟩
      | '*' :: rest =>
        if previous = none ∨ previous = some '/' then
          match rest with
          | [] => .ok [.anyDepth]
          | '/' :: rest => after 3 .anyDepth '/' rest
          | _ => .error ⟨position + 2, .depthNotAlone⟩
        else .error ⟨position - 1, .depthNotAlone⟩
      | rest => after 1 .anyRun c rest
    | '[' =>
      match classToken rest with
      | some (token, after') => after (1 + (rest.length - after'.length)) token ']' after'
      | none => .error ⟨position, .badClass⟩
    | c => after 1 (.char c) c rest

/-- Reads a pattern. -/
def Pattern.ofText? (s : String) : Except PatternError Pattern :=
  tokensUpTo s.length 0 none s.toList

namespace Pattern

/-- Whether a pattern stands for any number of directories. -/
def isAnyDepth (p : Pattern) : Bool :=
  p == [.anyDepth]

/-- The name that a pattern without special characters stands for. -/
def literal? (p : Pattern) : Option String :=
  (p.mapM fun
    | Token.char c => some c
    | _ => none).map String.ofList

/-- Whether a pattern starts with a plain dot. -/
def startsWithDot (p : Pattern) : Bool :=
  p.head? == some (.char '.')

end Pattern

/-- Whether a token stands for a single character. -/
def Token.accepts (c : Char) : Token → Bool
  | .char d => c == d
  | .anyChar => true
  | .anyOf ranges => ranges.any (·.holds c)
  | .noneOf ranges => !ranges.any (·.holds c)
  | .anyRun | .anyDepth => false

/-- Whether a token stands for a run of characters. -/
def Token.isRun : Token → Bool
  | .anyRun | .anyDepth => true
  | _ => false

/-- The rule of matching a whole name: a run takes no character, or one and then goes on; any other
token takes one. -/
def matchesChars : Pattern → List Char → Bool
  | [], cs => cs.isEmpty
  | token :: tokens, [] => token.isRun && matchesChars tokens []
  | token :: tokens, c :: cs =>
    if token.isRun then matchesChars tokens (c :: cs) || matchesChars (token :: tokens) cs
    else token.accepts c && matchesChars tokens cs
termination_by tokens cs => tokens.length + cs.length

/-! ### Matching in rows

The rule tries two ways at each run.  To ask no question twice, a name is read from its end, with
the answers for all suffixes of the pattern in a row, the whole pattern first.
-/

/-- The row for the empty name. -/
def emptyRow : Pattern → List Bool
  | [] => [true]
  | token :: tokens =>
    let row := emptyRow tokens
    (token.isRun && row.headD false) :: row

/-- The row for a name with one more character in front. -/
def nextRow (c : Char) : Pattern → List Bool → List Bool
  | [], _ => [false]
  | token :: tokens, old =>
    let row := nextRow c tokens old.tail
    (if token.isRun then row.headD false || old.headD false
      else token.accepts c && old.tail.headD false) :: row

/-- Whether a pattern matches a name. -/
def Pattern.matches (p : Pattern) (name : String) : Bool :=
  (name.toList.foldr (fun c row => nextRow c p row) (emptyRow p)).headD false

/-- The answers of the rule for all suffixes of a pattern. -/
def suffixAnswers (cs : List Char) : Pattern → List Bool
  | [] => [matchesChars [] cs]
  | token :: tokens => matchesChars (token :: tokens) cs :: suffixAnswers cs tokens

@[simp] theorem head?_suffixAnswers (cs : List Char) (p : Pattern) :
    (suffixAnswers cs p).head? = some (matchesChars p cs) := by
  cases p <;> rfl

theorem emptyRow_eq (p : Pattern) : emptyRow p = suffixAnswers [] p := by
  induction p with
  | nil => simp [emptyRow, suffixAnswers, matchesChars]
  | cons token tokens ih => simp [emptyRow, suffixAnswers, matchesChars, ih]

theorem nextRow_eq (c : Char) (cs : List Char) (p : Pattern) :
    nextRow c p (suffixAnswers cs p) = suffixAnswers (c :: cs) p := by
  induction p with
  | nil => simp [nextRow, suffixAnswers, matchesChars]
  | cons token tokens ih => simp [nextRow, suffixAnswers, matchesChars, ih]

/-- **The rows follow the rule.** -/
theorem Pattern.matches_eq (p : Pattern) (name : String) :
    p.matches name = matchesChars p name.toList := by
  suffices ∀ cs : List Char,
      cs.foldr (fun c row => nextRow c p row) (emptyRow p) = suffixAnswers cs p by
    simp [Pattern.matches, this]
  intro cs
  induction cs with
  | nil => exact emptyRow_eq p
  | cons c cs ih => rw [List.foldr_cons, ih, nextRow_eq]

end SchemaCompiler.Glob
