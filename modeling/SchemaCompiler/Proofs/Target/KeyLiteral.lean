import SchemaCompiler.Proofs.Text.Lines
import SchemaCompiler.Target.KeyLiteral

/-!
# Reading key literals back

`readLiteral` reads a string literal with the escapes that keys are written with.  It gives back the
key that a literal was made of, and stops where the literal ends, whatever follows
(`readLiteral_append`).  So a key literal is told apart from what it is spliced into
(`keyLiteral_append_injOn`), and it stays on its line.
-/

namespace SchemaCompiler

open Text

/-- Reads what follows the opening quote: escapes stand for their characters, the first quote that
is not part of one ends the literal, and any other character stands for itself. -/
def readLiteralBody : List Char → Option (List Char × List Char)
  | [] => none
  | '\\' :: '"' :: rest => (readLiteralBody rest).map fun r => ('"' :: r.1, r.2)
  | '\\' :: '\\' :: rest => (readLiteralBody rest).map fun r => ('\\' :: r.1, r.2)
  | '\\' :: 'n' :: rest => (readLiteralBody rest).map fun r => ('\n' :: r.1, r.2)
  | '\\' :: 't' :: rest => (readLiteralBody rest).map fun r => ('\t' :: r.1, r.2)
  | '"' :: rest => some ([], rest)
  | c :: rest => (readLiteralBody rest).map fun r => (c :: r.1, r.2)

/-- Reads a string literal: its text, and what follows it. -/
def readLiteral : List Char → Option (String × List Char)
  | '"' :: rest => (readLiteralBody rest).map fun r => (String.ofList r.1, r.2)
  | _ => none

/-- Reading is the inverse of escaping, character by character. -/
theorem readLiteralBody_literalChar (c : Char) (rest : List Char) :
    readLiteralBody (literalChar c ++ rest) =
      (readLiteralBody rest).map fun r => (c :: r.1, r.2) := by
  unfold literalChar
  split
  · simp [readLiteralBody]
  · simp [readLiteralBody]
  · simp [readLiteralBody]
  · simp [readLiteralBody]
  · -- Neither a quote nor the start of an escape.
    next hquote hbackslash _ _ =>
    rw [List.singleton_append, readLiteralBody] <;> simp_all

theorem readLiteralBody_append (key rest : List Char) :
    readLiteralBody (key.flatMap literalChar ++ '"' :: rest) = some (key, rest) := by
  induction key with
  | nil => simp [readLiteralBody]
  | cons c key ih =>
    rw [List.flatMap_cons, List.append_assoc, readLiteralBody_literalChar, ih]
    rfl

theorem toList_keyLiteral (key : String) :
    (keyLiteral key).toList = '"' :: (key.toList.flatMap literalChar ++ ['"']) := by
  rw [keyLiteral, String.toList_ofList, List.cons_append]

/-- **A literal is read back as the key it was made of**, and reading stops where it ends. -/
theorem readLiteral_append (key : String) (rest : List Char) :
    readLiteral ((keyLiteral key).toList ++ rest) = some (key, rest) := by
  rw [toList_keyLiteral, List.cons_append, List.append_assoc, List.singleton_append, readLiteral,
    readLiteralBody_append, Option.map_some, String.ofList_toList]

/-- A text that starts with a key literal determines the key and what follows. -/
theorem keyLiteral_append_injOn {key key' rest rest' : String}
    (h : keyLiteral key ++ rest = keyLiteral key' ++ rest') : key = key' ∧ rest = rest' := by
  have hread := congrArg (fun text => readLiteral text.toList) h
  simp only [String.toList_append, readLiteral_append, Option.some.injEq, Prod.mk.injEq,
    String.toList_inj] at hread
  exact hread

theorem newline_not_mem_literalChar (c : Char) : '\n' ∉ literalChar c := by
  unfold literalChar
  split <;> simp_all [eq_comm]

/-- A key literal stays on its line. -/
theorem singleLine_keyLiteral (key : String) : SingleLine (keyLiteral key) := by
  rw [SingleLine, toList_keyLiteral]
  simp [newline_not_mem_literalChar]

end SchemaCompiler
