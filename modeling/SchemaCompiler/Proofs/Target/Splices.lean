import SchemaCompiler.Proofs.Target.RecordText
import SchemaCompiler.Proofs.Target.TypeSpelling

/-!
# Keys spliced into generated code

The text of a record is code with key literals between.  `Splices text keys` says so, with the keys
in their order; nothing else of a schema gets into the text but identifiers and types, which have
neither a quote nor a carriage return.

* `Target.literals_are_keys`: a key literal is read back as its key wherever it stands, and the
  string literals in the text of a record are the keys of its fields: once each where the fields are
  written, and then as often as the target looks a key up where they are read.
* `Target.line_ends`: the line feeds of the text are those that end its lines, as many as the kind
  of body and the number of its fields call for.  Carriage returns are another matter: they are not
  escaped in literals, so that the text has those of the keys.
-/

namespace SchemaCompiler

open Text

/-! ### The string literals of a text -/

theorem length_lt_of_readLiteralBody {text key rest : List Char}
    (h : readLiteralBody text = some (key, rest)) : rest.length < text.length := by
  fun_induction readLiteralBody text generalizing key rest with
  | case1 => cases h
  | case2 text ih | case3 text ih | case4 text ih | case5 text ih =>
    obtain ⟨r, hr, heq⟩ := Option.map_eq_some_iff.1 h
    obtain ⟨-, rfl⟩ := Prod.mk.inj heq
    have hlt := ih hr
    simp only [List.length_cons]
    omega
  | case6 text =>
    obtain ⟨-, rfl⟩ := Prod.mk.inj (Option.some.inj h)
    exact Nat.lt_succ_self _
  | case7 c text _ _ _ _ _ ih =>
    obtain ⟨r, hr, heq⟩ := Option.map_eq_some_iff.1 h
    obtain ⟨-, rfl⟩ := Prod.mk.inj heq
    have hlt := ih hr
    simp only [List.length_cons]
    omega

theorem length_lt_of_readLiteral {text rest : List Char} {key : String}
    (h : readLiteral text = some (key, rest)) : rest.length < text.length := by
  unfold readLiteral at h
  split at h
  · obtain ⟨r, hr, heq⟩ := Option.map_eq_some_iff.1 h
    obtain ⟨-, rfl⟩ := Prod.mk.inj heq
    have hlt := length_lt_of_readLiteralBody hr
    simp only [List.length_cons]
    omega
  · cases h

/-- The string literals of a text, from left to right. -/
def stringLiterals (text : List Char) : List String :=
  match text with
  | [] => []
  | c :: rest =>
    match _h : readLiteral (c :: rest) with
    | some (key, after) => key :: stringLiterals after
    | none => stringLiterals rest
termination_by text.length
decreasing_by
  · exact length_lt_of_readLiteral _h
  · exact Nat.lt_succ_self _

theorem stringLiterals_of_readLiteral {text rest : List Char} {key : String}
    (h : readLiteral text = some (key, rest)) :
    stringLiterals text = key :: stringLiterals rest := by
  cases text with
  | nil => cases h
  | cons c text =>
    rw [stringLiterals]
    split
    · next key' after heq =>
      obtain ⟨rfl, rfl⟩ := Prod.mk.inj (Option.some.inj (heq.symm.trans h))
      rfl
    · next hnone => cases hnone.symm.trans h

theorem stringLiterals_cons_of_ne {c : Char} (hc : c ≠ '"') (text : List Char) :
    stringLiterals (c :: text) = stringLiterals text := by
  have hnone : readLiteral (c :: text) = none := by
    unfold readLiteral
    split
    · next heq => exact absurd (List.cons.inj heq).1 hc
    · rfl
  rw [stringLiterals]
  split
  · next hsome => cases hnone.symm.trans hsome
  · rfl

/-- There are no literals in a text without quotes. -/
theorem stringLiterals_append_of_not_mem {code : List Char} (h : '"' ∉ code) (text : List Char) :
    stringLiterals (code ++ text) = stringLiterals text := by
  induction code with
  | nil => rfl
  | cons c code ih =>
    have hc : c ≠ '"' := fun heq => h (heq ▸ List.mem_cons_self)
    rw [List.cons_append, stringLiterals_cons_of_ne hc, ih (List.not_mem_of_not_mem_cons h)]

/-! ### Code with keys between -/

/-- Text that is no part of a literal and needs no escapes: it has neither a quote nor a carriage
return. -/
structure IsCode (s : String) : Prop where
  quote_not_mem : '"' ∉ s.toList
  return_not_mem : '\r' ∉ s.toList

/-- For literals, which are lists of characters by definition. -/
theorem isCode_ofList {cs : List Char} (h : '"' ∉ cs ∧ '\r' ∉ cs) : IsCode (String.ofList cs) := by
  rw [← String.toList_ofList (l := cs)] at h
  exact ⟨h.1, h.2⟩

theorem isCode_append_iff {a b : String} : IsCode (a ++ b) ↔ IsCode a ∧ IsCode b := by
  constructor
  · rintro ⟨hquote, hreturn⟩
    rw [String.toList_append, List.mem_append, not_or] at hquote hreturn
    exact ⟨⟨hquote.1, hreturn.1⟩, hquote.2, hreturn.2⟩
  · rintro ⟨ha, hb⟩
    constructor
    · rw [String.toList_append, List.mem_append, not_or]
      exact ⟨ha.quote_not_mem, hb.quote_not_mem⟩
    · rw [String.toList_append, List.mem_append, not_or]
      exact ⟨ha.return_not_mem, hb.return_not_mem⟩

theorem Naming.IsIdentifier.isCode {s : String} (h : Naming.IsIdentifier s) : IsCode s := by
  constructor
  · intro hmem
    exact absurd (h.isIdentifierChar _ hmem) (by decide)
  · intro hmem
    exact absurd (h.isIdentifierChar _ hmem) (by decide)

/-- Every line is code. -/
def CodeLines (lines : List String) : Prop :=
  ∀ line ∈ lines, IsCode line

@[simp] theorem codeLines_nil : CodeLines [] :=
  List.forall_mem_nil _

@[simp] theorem codeLines_cons_iff {line : String} {lines : List String} :
    CodeLines (line :: lines) ↔ IsCode line ∧ CodeLines lines :=
  List.forall_mem_cons

@[simp] theorem codeLines_append_iff {lines lines' : List String} :
    CodeLines (lines ++ lines') ↔ CodeLines lines ∧ CodeLines lines' :=
  List.forall_mem_append

theorem codeLines_map {α : Type} {f : α → String} (h : ∀ x, IsCode (f x)) (as : List α) :
    CodeLines (as.map f) :=
  List.forall_mem_map.2 fun x _ => h x

/-- Carriage returns stand for themselves in a literal. -/
theorem return_mem_keyLiteral_iff (key : String) :
    '\r' ∈ (keyLiteral key).toList ↔ '\r' ∈ key.toList := by
  have hchar : ∀ c, '\r' ∈ literalChar c ↔ c = '\r' := by
    intro c
    unfold literalChar
    split <;> simp [eq_comm]
  rw [toList_keyLiteral]
  simp [hchar]

/-- The text is code with the literals of the keys between, in this order. -/
inductive Splices : String → List String → Prop
  | code {s : String} (h : IsCode s) : Splices s []
  | codeAppend {s text : String} {keys : List String} (h : IsCode s) (ht : Splices text keys) :
      Splices (s ++ text) keys
  | keyAppend (key : String) {text : String} {keys : List String} (ht : Splices text keys) :
      Splices (keyLiteral key ++ text) (key :: keys)

namespace Splices

variable {text text' : String} {keys keys' : List String}

theorem append (h : Splices text keys) (h' : Splices text' keys') :
    Splices (text ++ text') (keys ++ keys') := by
  induction h with
  | code h => exact .codeAppend h h'
  | codeAppend h _ ih =>
    rw [String.append_assoc]
    exact .codeAppend h ih
  | keyAppend key _ ih =>
    rw [String.append_assoc]
    exact .keyAppend key ih

/-- The keys are what the literals of the text are read as, whatever follows the text. -/
theorem stringLiterals_append (h : Splices text keys) (rest : List Char) :
    stringLiterals (text.toList ++ rest) = keys ++ stringLiterals rest := by
  induction h with
  | code h => exact stringLiterals_append_of_not_mem h.quote_not_mem rest
  | codeAppend h _ ih =>
    rw [String.toList_append, List.append_assoc,
      stringLiterals_append_of_not_mem h.quote_not_mem, ih]
  | keyAppend key _ ih =>
    rw [String.toList_append, List.append_assoc,
      stringLiterals_of_readLiteral (readLiteral_append key _), ih, List.cons_append]

theorem stringLiterals_eq (h : Splices text keys) : stringLiterals text.toList = keys := by
  have happend := h.stringLiterals_append []
  rwa [List.append_nil, stringLiterals, List.append_nil] at happend

/-- The carriage returns of the text are those of the keys. -/
theorem return_mem_iff (h : Splices text keys) :
    '\r' ∈ text.toList ↔ ∃ key ∈ keys, '\r' ∈ key.toList := by
  induction h with
  | code h => simp [h.return_not_mem]
  | codeAppend h _ ih =>
    rw [String.toList_append, List.mem_append, ih]
    exact or_iff_right h.return_not_mem
  | keyAppend key _ ih =>
    rw [String.toList_append, List.mem_append, ih, return_mem_keyLiteral_iff,
      List.exists_mem_cons_iff]

/-! #### Lines -/

theorem unlines_cons {line : String} {lines : List String} (h : Splices line keys)
    (h' : Splices (unlines lines) keys') : Splices (unlines (line :: lines)) (keys ++ keys') := by
  have hend : IsCode "\n" := isCode_ofList (by decide)
  rw [unlines, String.append_assoc]
  exact h.append (.codeAppend hend h')

theorem unlines_code {lines : List String} (h : CodeLines lines) : Splices (unlines lines) [] := by
  induction lines with
  | nil => exact .code (isCode_ofList (by decide))
  | cons line lines ih =>
    rw [codeLines_cons_iff] at h
    have hline : Splices line [] := .code h.1
    exact hline.unlines_cons (ih h.2)

theorem unlines_append {lines lines' : List String} (h : Splices (unlines lines) keys)
    (h' : Splices (unlines lines') keys') :
    Splices (unlines (lines ++ lines')) (keys ++ keys') := by
  rw [Text.unlines_append]
  exact h.append h'

/-- Lines of code around those with keys. -/
theorem unlines_between {before lines after : List String} (hbefore : CodeLines before)
    (h : Splices (unlines lines) keys) (hafter : CodeLines after) :
    Splices (unlines (before ++ lines ++ after)) keys := by
  have hlines := ((unlines_code hbefore).unlines_append h).unlines_append (unlines_code hafter)
  rwa [List.nil_append, List.append_nil] at hlines

theorem unlines_flatMap {α : Type} {f g : α → List String}
    (h : ∀ x, Splices (unlines (f x)) (g x)) (xs : List α) :
    Splices (unlines (xs.flatMap f)) (xs.flatMap g) := by
  induction xs with
  | nil => exact .code (isCode_ofList (by decide))
  | cons x xs ih =>
    rw [List.flatMap_cons, List.flatMap_cons]
    exact (h x).unlines_append ih

theorem unlines_map {α : Type} {f : α → String} {g : α → List String}
    (h : ∀ x, Splices (f x) (g x)) (xs : List α) :
    Splices (unlines (xs.map f)) (xs.flatMap g) := by
  rw [List.map_eq_flatMap]
  refine unlines_flatMap (fun x => ?_) xs
  have hline := (h x).unlines_cons (unlines_code codeLines_nil)
  rwa [List.append_nil] at hline

end Splices

/-! ### Identifiers and types -/

namespace Target

theorem isCode_typeIdent (t : Target) (name : String) : IsCode (t.typeIdent name) :=
  (t.isIdentifier_typeIdent name).isCode

theorem isCode_memberIdent (t : Target) (key : String) : IsCode (t.memberIdent key) := by
  cases t with
  | rust =>
    obtain ⟨hident, _⟩ | ⟨word, hword, heq⟩ := RustModule.memberIdent_cases key
    · exact hident.isCode
    · have hkeywords : ∀ word ∈ RustModule.keywords,
          '"' ∉ ("r#" ++ word).toList ∧ '\r' ∉ ("r#" ++ word).toList := by decide +kernel
      have hraw := hkeywords word hword
      rw [← heq] at hraw
      exact ⟨hraw.1, hraw.2⟩
  | cpp dumpMacro => exact (CppHeader.isIdentifier_memberIdent key).isCode

theorem isCode_spelling (t : Target) (type : FieldType) : IsCode (t.spelling type) := by
  induction type with
  | array item ih =>
    have hopening : IsCode t.arrayOpening := by
      cases t <;> exact isCode_ofList (by decide)
    rw [spelling_array, isCode_append_iff, isCode_append_iff]
    exact ⟨⟨hopening, ih⟩, isCode_ofList (by decide)⟩
  | record name =>
    rw [spelling_record]
    exact t.isCode_typeIdent name
  | integer width => cases t <;> cases width <;> exact isCode_ofList (by decide)
  | string | float | double | boolean | object => cases t <;> exact isCode_ofList (by decide)

/-- How often the code that reads a field names its key. -/
def lookups : Target → Nat
  | rust => 1
  | cpp _ => 3

/-- The keys in the text of a record: those that are written, and then those that are read. -/
def wireKeys (t : Target) (r : Record) : List String :=
  r.fields.map Field.key ++ r.fields.flatMap fun f => List.replicate t.lookups f.key

theorem mem_wireKeys_iff {t : Target} {r : Record} {key : String} :
    key ∈ t.wireKeys r ↔ ∃ f ∈ r.fields, f.key = key := by
  have hread : key ∈ r.fields.flatMap (fun f => List.replicate t.lookups f.key) →
      ∃ f ∈ r.fields, f.key = key := by
    intro hmem
    obtain ⟨f, hf, hkey⟩ := List.mem_flatMap.1 hmem
    exact ⟨f, hf, (List.eq_of_mem_replicate hkey).symm⟩
  rw [wireKeys, List.mem_append, List.mem_map, or_iff_left_of_imp hread]

end Target

/-! ### Rust modules -/

namespace RustModule

theorem splices_writing (f : Field) : Splices (writing f) [f.key] := by
  have hmember : IsCode (memberIdent f.key) := Target.rust.isCode_memberIdent f.key
  unfold writing
  simp only [String.append_assoc]
  refine .codeAppend (isCode_ofList (by decide)) (.keyAppend f.key ?_)
  exact .codeAppend (isCode_ofList (by decide))
    (.codeAppend hmember (.code (isCode_ofList (by decide))))

theorem splices_reading (f : Field) : Splices (unlines (reading f)) [f.key] := by
  have hmember : IsCode (memberIdent f.key) := Target.rust.isCode_memberIdent f.key
  have hget : Splices ("            if let Some(v) = j.get(" ++ keyLiteral f.key ++
      ").filter(|v| !is_empty(v)) \x7b") [f.key] := by
    rw [String.append_assoc]
    exact .codeAppend (isCode_ofList (by decide))
      (.keyAppend f.key (.code (isCode_ofList (by decide))))
  refine hget.unlines_cons (Splices.unlines_code ?_)
  simp only [codeLines_cons_iff, isCode_append_iff, hmember, codeLines_nil, and_true]
  and_intros <;> exact isCode_ofList (by decide)

theorem isCode_declaration (f : Field) : IsCode (declaration f) := by
  have hmember : IsCode (memberIdent f.key) := Target.rust.isCode_memberIdent f.key
  have htype : IsCode (spelling f.type) := Target.rust.isCode_spelling f.type
  unfold declaration
  simp only [isCode_append_iff, hmember, htype, and_true]
  and_intros <;> exact isCode_ofList (by decide)

theorem codeLines_memberLines (body : RecordBody) : CodeLines (memberLines body) := by
  cases body with
  | wrapper value =>
    have hvalue : IsCode (spelling value) := Target.rust.isCode_spelling value
    simp only [memberLines, codeLines_cons_iff, isCode_append_iff, hvalue, codeLines_nil, and_true]
    and_intros <;> exact isCode_ofList (by decide)
  | fields fs => exact codeLines_map isCode_declaration fs

/-- The lines that write a record name each key once. -/
theorem splices_writingLines (r : Record) :
    Splices (unlines (writingLines r.body)) (r.fields.map Field.key) := by
  obtain ⟨name, value | fs⟩ := r
  · exact .unlines_code (codeLines_cons_iff.2 ⟨isCode_ofList (by decide), codeLines_nil⟩)
  · have hfields := Splices.unlines_map splices_writing fs
    rw [← List.map_eq_flatMap] at hfields
    refine hfields.unlines_between ?_ ?_
    · exact codeLines_cons_iff.2 ⟨isCode_ofList (by decide), codeLines_nil⟩
    · exact codeLines_cons_iff.2 ⟨isCode_ofList (by decide), codeLines_nil⟩

/-- The lines that read a record name each key once. -/
theorem splices_readingLines (r : Record) : Splices (unlines (readingLines r.body))
    (r.fields.flatMap fun f => List.replicate Target.rust.lookups f.key) := by
  obtain ⟨name, value | fs⟩ := r
  · exact .unlines_code (codeLines_cons_iff.2 ⟨isCode_ofList (by decide), codeLines_nil⟩)
  · refine (Splices.unlines_flatMap splices_reading fs).unlines_between ?_ ?_
    · exact codeLines_cons_iff.2 ⟨isCode_ofList (by decide), codeLines_nil⟩
    · exact codeLines_cons_iff.2 ⟨isCode_ofList (by decide), codeLines_nil⟩

theorem splices_recordLines (r : Record) :
    Splices (unlines (recordLines r)) (Target.rust.wireKeys r) := by
  have htype : IsCode (typeIdent r.name) := Target.rust.isCode_typeIdent r.name
  rw [recordLines_eq, ← List.append_nil (Target.rust.wireKeys r)]
  refine ((Splices.unlines_between ?_ (splices_writingLines r) ?_).unlines_append
    (splices_readingLines r)).unlines_append (.unlines_code ?_)
  · simp only [codeLines_append_iff, codeLines_cons_iff, isCode_append_iff, htype,
      codeLines_memberLines, codeLines_nil, and_true]
    and_intros <;> exact isCode_ofList (by decide)
  · simp only [codeLines_cons_iff, codeLines_nil, and_true]
    and_intros <;> exact isCode_ofList (by decide)
  · simp only [codeLines_cons_iff, codeLines_nil, and_true]
    and_intros <;> exact isCode_ofList (by decide)

end RustModule

/-! ### C++ headers -/

namespace CppHeader

theorem isCode_memberIdent (key : String) : IsCode (memberIdent key) :=
  (isIdentifier_memberIdent key).isCode

theorem isCode_spelling (type : FieldType) : IsCode (spelling type) :=
  (Target.cpp none).isCode_spelling type

theorem splices_writing (f : Field) : Splices (writing f) [f.key] := by
  unfold writing
  simp only [String.append_assoc]
  refine .codeAppend (isCode_ofList (by decide)) (.keyAppend f.key ?_)
  exact .codeAppend (isCode_ofList (by decide))
    (.codeAppend (isCode_memberIdent f.key) (.code (isCode_ofList (by decide))))

/-- The line that reads a field asks for its key, then whether its value is empty, then for the
value. -/
theorem splices_reading (f : Field) : Splices (reading f) [f.key, f.key, f.key] := by
  unfold reading
  simp only [String.append_assoc]
  refine .codeAppend (isCode_ofList (by decide)) (.keyAppend f.key ?_)
  refine .codeAppend (isCode_ofList (by decide)) (.keyAppend f.key ?_)
  refine .codeAppend (isCode_ofList (by decide)) (.codeAppend (isCode_memberIdent f.key) ?_)
  refine .codeAppend (isCode_ofList (by decide)) (.keyAppend f.key ?_)
  exact .codeAppend (isCode_ofList (by decide))
    (.codeAppend (isCode_spelling f.type) (.code (isCode_ofList (by decide))))

theorem isCode_declaration (f : Field) : IsCode (declaration f) := by
  simp only [declaration, isCode_append_iff, isCode_memberIdent, isCode_spelling, and_true]
  and_intros <;> exact isCode_ofList (by decide)

theorem codeLines_memberLines (body : RecordBody) : CodeLines (memberLines body) := by
  cases body with
  | wrapper value =>
    simp only [memberLines, codeLines_cons_iff, isCode_append_iff, isCode_spelling, codeLines_nil,
      and_true]
    and_intros <;> exact isCode_ofList (by decide)
  | fields fs => exact codeLines_map isCode_declaration fs

theorem splices_writingLines (r : Record) :
    Splices (unlines (writingLines r.body)) (r.fields.map Field.key) := by
  obtain ⟨name, value | fs⟩ := r
  · exact .unlines_code (codeLines_cons_iff.2 ⟨isCode_ofList (by decide), codeLines_nil⟩)
  · have hfields := Splices.unlines_map splices_writing fs
    rwa [← List.map_eq_flatMap] at hfields

theorem splices_readingLines (dumpMacro : Option String) (r : Record) :
    Splices (unlines (readingLines r.body))
      (r.fields.flatMap fun f => List.replicate (Target.cpp dumpMacro).lookups f.key) := by
  obtain ⟨name, value | fs⟩ := r
  · refine .unlines_code ?_
    simp only [readingLines, codeLines_cons_iff, isCode_append_iff, isCode_spelling, codeLines_nil,
      and_true]
    and_intros <;> exact isCode_ofList (by decide)
  · exact Splices.unlines_map splices_reading fs

theorem splices_classLines (dumpMacro : Option String) (r : Record) :
    Splices (unlines (classLines (typeIdent r.name) (memberLines r.body) (writingLines r.body)
      (readingLines r.body))) ((Target.cpp dumpMacro).wireKeys r) := by
  have htype : IsCode (typeIdent r.name) := (Target.cpp dumpMacro).isCode_typeIdent r.name
  refine (Splices.unlines_between ?_ (splices_writingLines r) ?_).unlines_append
    (splices_readingLines dumpMacro r)
  · simp only [codeLines_append_iff, codeLines_cons_iff, isCode_append_iff, htype,
      codeLines_memberLines, codeLines_nil, and_true]
    and_intros <;> exact isCode_ofList (by decide)
  · simp only [codeLines_cons_iff, isCode_append_iff, htype, codeLines_nil, and_true]
    and_intros <;> exact isCode_ofList (by decide)

/-- The lines that end a class without a macro. -/
def classEnd : List String :=
  ["    \x7d;", "\x7d;"]

theorem recordLines_none_eq (r : Record) : recordLines none r =
    classLines (typeIdent r.name) (memberLines r.body) (writingLines r.body)
      (readingLines r.body) ++ classEnd := by
  rw [recordLines_eq]
  simp [frame, classLines, classEnd]

end CppHeader

/-! ### Literals of the text of a record -/

/-- The macro that a target invokes at the end of each record. -/
def Target.dumpMacro : Target → Option String
  | rust => none
  | cpp dumpMacro => dumpMacro

/-- The keys are spliced into the text of a record up to the macro, if there is one. -/
theorem Target.exists_splices (t : Target) (r : Record) : ∃ text ending,
    t.recordText r = text ++ ending ∧ Splices text (t.wireKeys r) ∧
      (t.dumpMacro = none → IsCode ending) := by
  cases t with
  | rust =>
    refine ⟨Target.rust.recordText r, "", String.append_empty.symm, ?_, fun _ => ?_⟩
    · exact RustModule.splices_recordLines r
    · exact isCode_ofList (by decide)
  | cpp dumpMacro =>
    have hclass := CppHeader.splices_classLines dumpMacro r
    cases dumpMacro with
    | none =>
      refine ⟨_, unlines CppHeader.classEnd, ?_, hclass, fun _ => ?_⟩
      · rw [recordText, CppHeader.recordLines_none_eq, unlines_append]
      · constructor <;> decide +kernel
    | some dump =>
      obtain ⟨ending, hframe⟩ := CppHeader.exists_frame_eq (some dump)
      refine ⟨_, unlines ending, ?_, hclass, fun hnone => ?_⟩
      · rw [recordText, CppHeader.recordLines_eq, hframe, unlines_append]
      · cases hnone

/-- A key literal determines its key and where it ends. -/
theorem keyLiteral_injective : Function.Injective keyLiteral := by
  intro key key' h
  exact (keyLiteral_append_injOn (congrArg (· ++ "") h)).1

/-- **Key literals are read back as the keys**, whatever follows them, and so the string literals
that the text of a record has are the keys of its fields: those that are written, and then those
that are read.  Further ones can only come with the macro at the end. -/
theorem Target.literals_are_keys :
    (∀ (key : String) (rest : List Char),
      readLiteral ((keyLiteral key).toList ++ rest) = some (key, rest)) ∧
    Function.Injective keyLiteral ∧
    ∀ (t : Target) (r : Record), ∃ others,
      stringLiterals (t.recordText r).toList =
        r.fields.map Field.key ++ (r.fields.flatMap fun f => List.replicate t.lookups f.key) ++
          others ∧
      (t.dumpMacro = none → others = []) := by
  refine ⟨readLiteral_append, keyLiteral_injective, fun t r => ?_⟩
  obtain ⟨text, ending, htext, hsplices, hending⟩ := t.exists_splices r
  refine ⟨stringLiterals ending.toList, ?_, fun hnone => ?_⟩
  · rw [htext, String.toList_append, hsplices.stringLiterals_append]
    rfl
  · exact (Splices.code (hending hnone)).stringLiterals_eq

/-! ### Line ends -/

/-- The number of fields of a body; none for a single value. -/
def RecordBody.fieldCount? : RecordBody → Option Nat
  | .wrapper _ => none
  | .fields fs => some fs.length

/-- The number of lines of a record, without a macro. -/
def Target.lineCount : Target → Option Nat → Nat
  | rust, none => 15
  | rust, some n => 5 * n + 16
  | cpp _, none => 13
  | cpp _, some n => 3 * n + 10

theorem RustModule.length_recordLines (r : Record) :
    (recordLines r).length = Target.rust.lineCount r.body.fieldCount? := by
  obtain ⟨name, value | fs⟩ := r
  · rfl
  · have hreading : (fs.flatMap reading).length = fs.length * 3 := by
      simp [List.length_flatMap, reading]
    simp only [recordLines, fields, frame, List.length_append, List.length_map, List.length_cons,
      List.length_nil, hreading, RecordBody.fieldCount?, Target.lineCount]
    omega

theorem CppHeader.length_recordLines (r : Record) :
    (recordLines none r).length = (Target.cpp none).lineCount r.body.fieldCount? := by
  obtain ⟨name, value | fs⟩ := r
  · rfl
  · simp only [recordLines, fields, frame, List.length_append, List.length_map, List.length_cons,
      List.length_nil, RecordBody.fieldCount?, Target.lineCount]
    omega

theorem CppHeader.singleLines_recordLines (r : Record) : SingleLines (recordLines none r) := by
  rw [recordLines_none_eq, singleLines_append_iff]
  refine ⟨singleLines_classLines r, ?_⟩
  simp only [classEnd, singleLines_cons_iff, singleLines_nil, and_true]
  and_intros <;> exact singleLine_ofList (by decide)

theorem Text.count_newline_unlines {lines : List String} (h : SingleLines lines) :
    (unlines lines).toList.count '\n' = lines.length := by
  induction lines with
  | nil => rfl
  | cons line lines ih =>
    rw [singleLines_cons_iff] at h
    rw [toList_unlines_cons, List.count_append, List.count_cons_self, ih h.2,
      List.count_eq_zero.2 h.1, List.length_cons, Nat.zero_add]

theorem Target.exists_lines {t : Target} (ht : t.dumpMacro = none) (r : Record) : ∃ lines,
    t.recordText r = unlines lines ∧ SingleLines lines ∧
      lines.length = t.lineCount r.body.fieldCount? := by
  cases t with
  | rust =>
    exact ⟨_, rfl, RustModule.singleLines_recordLines r, RustModule.length_recordLines r⟩
  | cpp dumpMacro =>
    obtain rfl : dumpMacro = none := ht
    exact ⟨_, rfl, CppHeader.singleLines_recordLines r, CppHeader.length_recordLines r⟩

/-- The carriage returns of a record are those of its keys. -/
theorem Target.return_mem_recordText_iff {t : Target} (ht : t.dumpMacro = none) {r : Record} :
    '\r' ∈ (t.recordText r).toList ↔ ∃ f ∈ r.fields, '\r' ∈ f.key.toList := by
  obtain ⟨text, ending, htext, hsplices, hending⟩ := t.exists_splices r
  have hreturn := (hsplices.append (.code (hending ht))).return_mem_iff
  rw [← htext, List.append_nil] at hreturn
  rw [hreturn]
  constructor
  · rintro ⟨key, hkey, hmem⟩
    obtain ⟨f, hf, rfl⟩ := mem_wireKeys_iff.1 hkey
    exact ⟨f, hf, hmem⟩
  · rintro ⟨f, hf, hmem⟩
    exact ⟨f.key, mem_wireKeys_iff.2 ⟨f, hf, rfl⟩, hmem⟩

/-- **Line feeds end the lines of a record, and stand nowhere else**: there are as many as the kind
of its body and the number of its fields call for, and no key literal has one.  But carriage returns
of keys get into the text as they are. -/
theorem Target.line_ends {t : Target} (ht : t.dumpMacro = none) (r : Record) :
    (∃ lines, t.recordText r = unlines lines ∧ SingleLines lines ∧
      lines.length = t.lineCount r.body.fieldCount?) ∧
    (t.recordText r).toList.count '\n' = t.lineCount r.body.fieldCount? ∧
    (∀ f ∈ r.fields, SingleLine (keyLiteral f.key)) ∧
    ('\r' ∈ (t.recordText r).toList ↔ ∃ f ∈ r.fields, '\r' ∈ f.key.toList) := by
  have hlines := exists_lines ht r
  refine ⟨hlines, ?_, fun f _ => singleLine_keyLiteral f.key, return_mem_recordText_iff ht⟩
  obtain ⟨lines, htext, hsingle, hlength⟩ := hlines
  rw [htext, count_newline_unlines hsingle, hlength]

/-- A record with a line feed in its name and another one in a key has them in neither of the two
places of its text. -/
theorem Target.line_ends_note :
    let note : Record := ⟨"no\nte", .fields [⟨"two\nlines", .array .string, true⟩]⟩
    (Target.cpp none).dumpMacro = none ∧
      ((Target.cpp none).recordText note).toList.count '\n' = 13 ∧
      '\r' ∉ ((Target.cpp none).recordText note).toList := by
  intro note
  have hnone : (Target.cpp none).dumpMacro = none := rfl
  obtain ⟨-, hcount, -, hreturn⟩ := Target.line_ends hnone note
  refine ⟨hnone, hcount, fun hmem => ?_⟩
  obtain ⟨f, hf, hkey⟩ := hreturn.1 hmem
  obtain rfl := List.mem_singleton.1 hf
  exact absurd hkey (by decide)

/-- A carriage return in a key stands unescaped in the text of its record, for either target. -/
theorem Target.return_survives :
    let note : Record := ⟨"Note", .fields [⟨"a\rb", .string, true⟩]⟩
    '\r' ∈ (Target.rust.recordText note).toList ∧
      '\r' ∈ ((Target.cpp none).recordText note).toList := by
  intro note
  have hkey : ∃ f ∈ note.fields, '\r' ∈ f.key.toList :=
    ⟨⟨"a\rb", .string, true⟩, List.mem_singleton_self _, by decide⟩
  exact ⟨(return_mem_recordText_iff rfl).2 hkey, (return_mem_recordText_iff rfl).2 hkey⟩

end SchemaCompiler
