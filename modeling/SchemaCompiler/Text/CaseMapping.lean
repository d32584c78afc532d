import SchemaCompiler.Text.CaseTable

/-!
# Case mapping

The full case mapping of a single character: its image is a text, which may be longer than one
character (`ß` becomes `SS`).
-/

namespace SchemaCompiler.Text

/-- The image of a character: its expansion, else its image in a run, else itself. -/
def CaseTable.map (t : CaseTable) (c : Char) : List Char :=
  match t.expansions.find? fun e => e.1 == c.toNat with
  | some e => e.2.map Char.ofNat
  | none =>
    match t.runs.find? fun r => r.holds c.toNat with
    | some r => [Char.ofNat (r.apply c.toNat)]
    | none => [c]

/-- The upper-case form of a character. -/
def uppercase (c : Char) : List Char :=
  upperTable.map c

/-- The lower-case form of a character. -/
def lowercase (c : Char) : List Char :=
  lowerTable.map c

end SchemaCompiler.Text
