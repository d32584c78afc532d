import SchemaCompiler.Proofs.Naming
import SchemaCompiler.Proofs.Target.KeyLiteral
import SchemaCompiler.Target.Basic

/-!
# The text of a record determines the record

Names and keys of a schema are arbitrary texts, and they are spliced into generated code.  Two
things keep the code apart from them: identifiers and types are made of a small alphabet, and keys
stand in literals.  So no line of a record has a line feed inside, the text of a record is cut into
lines in one way only, and the blocks of lines end at lines that no name and no key can produce.

* `Target.recordText_determines`: records with the same text have the same type identifier and the
  same kind of body, with fields that agree one by one in key, member identifier and type.
-/

namespace SchemaCompiler

open Text

/-- What the generated code shows of a field. -/
structure Target.SameField (t : Target) (f g : Field) : Prop where
  key : f.key = g.key
  memberIdent : t.memberIdent f.key = t.memberIdent g.key
  spelling : t.spelling f.type = t.spelling g.type

/-- What the generated code shows of a body. -/
inductive Target.SameBody (t : Target) : RecordBody → RecordBody → Prop
  | wrapper {value value' : FieldType} (h : t.spelling value = t.spelling value') :
      SameBody t (.wrapper value) (.wrapper value')
  | fields {fs gs : List Field} (h : List.Forall₂ t.SameField fs gs) :
      SameBody t (.fields fs) (.fields gs)

/-- Fields agree if one line of each shows its key and another one, given the key, its type. -/
theorem Target.sameBody_of_map_eq {t : Target} {declaration writing : Field → String}
    (hkey : ∀ {f g : Field}, writing f = writing g → f.key = g.key)
    (hspelling : ∀ {f g : Field}, f.key = g.key → declaration f = declaration g →
      t.spelling f.type = t.spelling g.type)
    {fs gs : List Field} (hdeclaration : fs.map declaration = gs.map declaration)
    (hwriting : fs.map writing = gs.map writing) : t.SameBody (.fields fs) (.fields gs) := by
  refine .fields ((List.forall₂_of_map_eq hdeclaration hwriting).imp fun f g hfg => ?_)
  have heq : f.key = g.key := hkey hfg.2
  exact ⟨heq, congrArg t.memberIdent heq, hspelling heq hfg.1⟩

/-! ### Rust modules -/

namespace RustModule

theorem singleLine_typeIdent (record : String) : SingleLine (typeIdent record) := by
  have hname := Naming.singleLine_identifier (Naming.typeName record)
  unfold typeIdent
  dsimp only
  split
  · exact singleLine_append_iff.2 ⟨hname, singleLine_ofList (by decide)⟩
  · exact hname

theorem singleLine_memberIdent (key : String) : SingleLine (memberIdent key) := by
  have hname := Naming.singleLine_identifier (Naming.memberName key)
  unfold memberIdent
  dsimp only
  split
  · exact singleLine_append_iff.2 ⟨hname, singleLine_ofList (by decide)⟩
  · split
    · exact singleLine_append_iff.2 ⟨singleLine_ofList (by decide), hname⟩
    · exact hname

theorem singleLine_spelling (type : FieldType) : SingleLine (spelling type) := by
  induction type with
  | array item ih =>
    have hopen : SingleLine "Vec<" := singleLine_ofList (by decide)
    have hclose : SingleLine ">" := singleLine_ofList (by decide)
    exact singleLine_append_iff.2 ⟨singleLine_append_iff.2 ⟨hopen, ih⟩, hclose⟩
  | integer width => cases width <;> exact singleLine_ofList (by decide)
  | record name => exact singleLine_typeIdent name
  | string | float | double | boolean | object => exact singleLine_ofList (by decide)

/-- The lines of the members of a body. -/
def memberLines : RecordBody → List String
  | .wrapper value => ["        pub value: " ++ spelling value ++ ","]
  | .fields fs => fs.map declaration

/-- The lines that write a body. -/
def writingLines : RecordBody → List String
  | .wrapper _ => ["            self.value.to_json()"]
  | .fields fs =>
    ["            let mut j = Map::new();"] ++ fs.map writing ++ ["            Value::Object(j)"]

/-- The lines that read a body. -/
def readingLines : RecordBody → List String
  | .wrapper _ => ["            Ok(Self \x7b value: JsonModel::from_json(j)? \x7d)"]
  | .fields fs =>
    ["            let mut r = Self::default();"] ++ fs.flatMap reading ++ ["            Ok(r)"]

theorem recordLines_eq (r : Record) : recordLines r = frame (typeIdent r.name)
    (memberLines r.body) (writingLines r.body) (readingLines r.body) := by
  obtain ⟨name, value | fs⟩ := r <;> rfl

/-! #### Single lines -/

theorem singleLine_declaration (f : Field) : SingleLine (declaration f) := by
  unfold declaration
  simp only [singleLine_append_iff, singleLine_memberIdent, singleLine_spelling, and_true]
  and_intros <;> exact singleLine_ofList (by decide)

theorem singleLine_writing (f : Field) : SingleLine (writing f) := by
  unfold writing
  simp only [singleLine_append_iff, singleLine_memberIdent, singleLine_keyLiteral, and_true]
  and_intros <;> exact singleLine_ofList (by decide)

theorem singleLines_reading (f : Field) : SingleLines (reading f) := by
  unfold reading
  simp only [singleLines_cons_iff, singleLine_append_iff, singleLine_memberIdent,
    singleLine_keyLiteral, singleLines_nil, and_true]
  and_intros <;> exact singleLine_ofList (by decide)

theorem singleLines_memberLines (body : RecordBody) : SingleLines (memberLines body) := by
  cases body with
  | wrapper value =>
    simp only [memberLines, singleLines_cons_iff, singleLine_append_iff, singleLine_spelling,
      singleLines_nil, and_true]
    and_intros <;> exact singleLine_ofList (by decide)
  | fields fs => exact singleLines_map singleLine_declaration fs

theorem singleLines_writingLines (body : RecordBody) : SingleLines (writingLines body) := by
  cases body with
  | wrapper value =>
    simp only [writingLines, singleLines_cons_iff, singleLines_nil, and_true]
    exact singleLine_ofList (by decide)
  | fields fs =>
    have hwriting := singleLines_map singleLine_writing fs
    simp only [writingLines, singleLines_append_iff, singleLines_cons_iff, singleLines_nil,
      hwriting, and_true]
    and_intros <;> exact singleLine_ofList (by decide)

theorem singleLines_readingLines (body : RecordBody) : SingleLines (readingLines body) := by
  cases body with
  | wrapper value =>
    simp only [readingLines, singleLines_cons_iff, singleLines_nil, and_true]
    exact singleLine_ofList (by decide)
  | fields fs =>
    have hreading := singleLines_flatMap singleLines_reading fs
    simp only [readingLines, singleLines_append_iff, singleLines_cons_iff, singleLines_nil,
      hreading, and_true]
    and_intros <;> exact singleLine_ofList (by decide)

/-- No line of a record has a line feed inside, whatever its name and its keys are. -/
theorem singleLines_recordLines (r : Record) : SingleLines (recordLines r) := by
  rw [recordLines_eq]
  unfold frame
  simp only [singleLines_append_iff, singleLines_cons_iff, singleLine_append_iff, singleLines_nil,
    singleLine_typeIdent, singleLines_memberLines, singleLines_writingLines,
    singleLines_readingLines, and_true]
  and_intros <;> exact singleLine_ofList (by decide)

/-! #### Blocks of lines -/

/-- The lines of a record are cut into blocks in one way, if the lines that end the first two blocks
do not stand in them. -/
theorem frame_injOn {type type' : String}
    {members members' writing writing' reading reading' : List String}
    (hm : "    \x7d" ∉ members) (hm' : "    \x7d" ∉ members')
    (hw : "        \x7d" ∉ writing) (hw' : "        \x7d" ∉ writing')
    (h : frame type members writing reading = frame type' members' writing' reading') :
    type = type' ∧ members = members' ∧ writing = writing' := by
  simp only [frame, List.cons_append, List.nil_append, List.append_assoc, List.cons.injEq,
    true_and] at h
  obtain ⟨htype, h⟩ := h
  -- The members end where the type is closed, and the writing where its function is.
  obtain ⟨hmembers, h⟩ := List.append_cons_injOn hm hm' h
  simp only [List.cons.injEq, true_and] at h
  obtain ⟨hwriting, _⟩ := List.append_cons_injOn hw hw' h.2
  rw [String.append_left_inj, String.append_right_inj] at htype
  exact ⟨htype, hmembers, hwriting⟩

theorem declaration_start (f : Field) : ∃ rest, declaration f = "        pub " ++ rest := by
  unfold declaration
  simp only [String.append_assoc, String.append_right_inj, exists_eq']

theorem writing_start (f : Field) :
    ∃ rest, writing f = "            j.insert(" ++ rest := by
  unfold writing
  simp only [String.append_assoc, String.append_right_inj, exists_eq']

theorem closing_not_mem_memberLines (body : RecordBody) : "    \x7d" ∉ memberLines body := by
  cases body with
  | wrapper value =>
    intro h
    have heq := List.mem_singleton.1 h
    rw [String.append_assoc] at heq
    exact ofList_append_ne (by decide) _ heq.symm
  | fields fs => exact ofList_not_mem_map declaration_start (by decide) fs

theorem closing_not_mem_writingLines (body : RecordBody) :
    "        \x7d" ∉ writingLines body := by
  cases body with
  | wrapper value => simp [writingLines]
  | fields fs =>
    have hfields : "        \x7d" ∉ fs.map writing :=
      ofList_not_mem_map writing_start (by decide) fs
    simp [writingLines, hfields]

/-! #### Fields -/

theorem key_eq_of_writing_eq {f g : Field} (h : writing f = writing g) : f.key = g.key := by
  unfold writing at h
  simp only [String.append_assoc, String.append_right_inj] at h
  exact (keyLiteral_append_injOn h).1

theorem spelling_eq_of_declaration_eq {f g : Field} (hkey : f.key = g.key)
    (h : declaration f = declaration g) : spelling f.type = spelling g.type := by
  unfold declaration at h
  rwa [hkey, String.append_left_inj, String.append_right_inj] at h

/-- The lines of the members and those that write them show what a body is. -/
theorem sameBody_of_lines_eq {body body' : RecordBody}
    (hmembers : memberLines body = memberLines body')
    (hwriting : writingLines body = writingLines body') : Target.rust.SameBody body body' := by
  cases body with
  | wrapper value =>
    cases body' with
    | wrapper value' =>
      have hline := (List.cons.inj hmembers).1
      rw [String.append_left_inj, String.append_right_inj] at hline
      exact .wrapper hline
    | fields gs => exact absurd (List.cons.inj hwriting).1 (by simp)
  | fields fs =>
    cases body' with
    | wrapper value' => exact absurd (List.cons.inj hwriting).1 (by simp)
    | fields gs =>
      -- The first and the last line that write a map are the same for all fields.
      have hlines := List.append_cancel_left (List.append_cancel_right hwriting)
      exact Target.sameBody_of_map_eq key_eq_of_writing_eq spelling_eq_of_declaration_eq
        hmembers hlines

theorem sameBody_of_recordLines_eq {r r' : Record} (h : recordLines r = recordLines r') :
    typeIdent r.name = typeIdent r'.name ∧ Target.rust.SameBody r.body r'.body := by
  rw [recordLines_eq, recordLines_eq] at h
  obtain ⟨htype, hmembers, hwriting⟩ := frame_injOn (closing_not_mem_memberLines _)
    (closing_not_mem_memberLines _) (closing_not_mem_writingLines _)
    (closing_not_mem_writingLines _) h
  exact ⟨htype, sameBody_of_lines_eq hmembers hwriting⟩

end RustModule

/-! ### C++ headers -/

namespace CppHeader

theorem singleLine_typeIdent (record : String) : SingleLine (typeIdent record) :=
  Naming.singleLine_identifier (Naming.typeName record)

theorem singleLine_memberIdent (key : String) : SingleLine (memberIdent key) := by
  have hname := Naming.singleLine_identifier (Naming.memberName key)
  unfold memberIdent
  dsimp only
  split
  · exact singleLine_append_iff.2 ⟨hname, singleLine_ofList (by decide)⟩
  · exact hname

theorem singleLine_spelling (type : FieldType) : SingleLine (spelling type) := by
  induction type with
  | array item ih =>
    have hopen : SingleLine "std::vector<" := singleLine_ofList (by decide)
    have hclose : SingleLine ">" := singleLine_ofList (by decide)
    exact singleLine_append_iff.2 ⟨singleLine_append_iff.2 ⟨hopen, ih⟩, hclose⟩
  | integer width => cases width <;> exact singleLine_ofList (by decide)
  | record name => exact singleLine_typeIdent name
  | string | float | double | boolean | object => exact singleLine_ofList (by decide)

/-- The lines of the members of a body. -/
def memberLines : RecordBody → List String
  | .wrapper value => ["    " ++ spelling value ++ " value;"]
  | .fields fs => fs.map declaration

/-- The lines that write a body. -/
def writingLines : RecordBody → List String
  | .wrapper _ => ["        j = r.value;"]
  | .fields fs => fs.map writing

/-- The lines that read a body. -/
def readingLines : RecordBody → List String
  | .wrapper value => ["        r.value = j.get<" ++ spelling value ++ ">();"]
  | .fields fs => fs.map reading

theorem recordLines_eq (dumpMacro : Option String) (r : Record) :
    recordLines dumpMacro r = frame dumpMacro (typeIdent r.name)
      (memberLines r.body) (writingLines r.body) (readingLines r.body) := by
  obtain ⟨name, value | fs⟩ := r <;> rfl

/-- The lines of a class, up to those that its name and its body have no part in. -/
def classLines (type : String) (members writing reading : List String) : List String :=
  ["",
   "class " ++ type ++ " \x7b",
   "public:"] ++
  members ++
  ["",
   "    friend void to_json(json &j, const " ++ type ++ " &r) \x7b"] ++
  writing ++
  ["    \x7d;",
   "",
   "    friend void from_json(const json &j, " ++ type ++ " &r) \x7b"] ++
  reading

theorem exists_frame_eq (dumpMacro : Option String) : ∃ ending : List String,
    ∀ (type : String) (members writing reading : List String),
      frame dumpMacro type members writing reading =
        classLines type members writing reading ++ ending := by
  cases dumpMacro with
  | none => exact ⟨["    \x7d;", "\x7d;"], fun _ _ _ _ => by simp [frame, classLines]⟩
  | some dump =>
    exact ⟨["    \x7d;", "", "    " ++ dump ++ "()", "\x7d;"],
      fun _ _ _ _ => by simp [frame, classLines]⟩

/-! #### Single lines -/

theorem singleLine_declaration (f : Field) : SingleLine (declaration f) := by
  unfold declaration
  simp only [singleLine_append_iff, singleLine_memberIdent, singleLine_spelling, and_true]
  and_intros <;> exact singleLine_ofList (by decide)

theorem singleLine_writing (f : Field) : SingleLine (writing f) := by
  unfold writing
  simp only [singleLine_append_iff, singleLine_memberIdent, singleLine_keyLiteral, and_true]
  and_intros <;> exact singleLine_ofList (by decide)

theorem singleLine_reading (f : Field) : SingleLine (reading f) := by
  unfold reading
  simp only [singleLine_append_iff, singleLine_memberIdent, singleLine_keyLiteral,
    singleLine_spelling, and_true]
  and_intros <;> exact singleLine_ofList (by decide)

theorem singleLines_memberLines (body : RecordBody) : SingleLines (memberLines body) := by
  cases body with
  | wrapper value =>
    simp only [memberLines, singleLines_cons_iff, singleLine_append_iff, singleLine_spelling,
      singleLines_nil, and_true]
    and_intros <;> exact singleLine_ofList (by decide)
  | fields fs => exact singleLines_map singleLine_declaration fs

theorem singleLines_writingLines (body : RecordBody) : SingleLines (writingLines body) := by
  cases body with
  | wrapper value =>
    simp only [writingLines, singleLines_cons_iff, singleLines_nil, and_true]
    exact singleLine_ofList (by decide)
  | fields fs => exact singleLines_map singleLine_writing fs

theorem singleLines_readingLines (body : RecordBody) : SingleLines (readingLines body) := by
  cases body with
  | wrapper value =>
    simp only [readingLines, singleLines_cons_iff, singleLine_append_iff, singleLine_spelling,
      singleLines_nil, and_true]
    and_intros <;> exact singleLine_ofList (by decide)
  | fields fs => exact singleLines_map singleLine_reading fs

/-- No line of a class has a line feed inside, unless the macro brings one. -/
theorem singleLines_classLines (r : Record) : SingleLines (classLines (typeIdent r.name)
    (memberLines r.body) (writingLines r.body) (readingLines r.body)) := by
  unfold classLines
  simp only [singleLines_append_iff, singleLines_cons_iff, singleLine_append_iff, singleLines_nil,
    singleLine_typeIdent, singleLines_memberLines, singleLines_writingLines,
    singleLines_readingLines, and_true]
  and_intros <;> exact singleLine_ofList (by decide)

/-! #### Blocks of lines -/

/-- The lines of a class are cut into blocks in one way, if the lines that end the first two blocks
do not stand in them. -/
theorem classLines_injOn {type type' : String}
    {members members' writing writing' reading reading' : List String}
    (hm : "" ∉ members) (hm' : "" ∉ members')
    (hw : "    \x7d;" ∉ writing) (hw' : "    \x7d;" ∉ writing')
    (h : classLines type members writing reading = classLines type' members' writing' reading') :
    type = type' ∧ members = members' ∧ writing = writing' := by
  simp only [classLines, List.cons_append, List.nil_append, List.append_assoc, List.cons.injEq,
    true_and] at h
  obtain ⟨htype, h⟩ := h
  -- Nothing closes the members here, but a blank line follows them, and none stands among them.
  obtain ⟨hmembers, h⟩ := List.append_cons_injOn hm hm' h
  obtain ⟨hwriting, _⟩ := List.append_cons_injOn hw hw' (List.cons.inj h).2
  rw [String.append_left_inj, String.append_right_inj] at htype
  exact ⟨htype, hmembers, hwriting⟩

theorem declaration_start (f : Field) : ∃ rest, declaration f = "    " ++ rest := by
  unfold declaration
  simp only [String.append_assoc, String.append_right_inj, exists_eq']

theorem writing_start (f : Field) : ∃ rest, writing f = "        j[" ++ rest := by
  unfold writing
  simp only [String.append_assoc, String.append_right_inj, exists_eq']

theorem blank_not_mem_memberLines (body : RecordBody) : "" ∉ memberLines body := by
  cases body with
  | wrapper value =>
    intro h
    have heq := List.mem_singleton.1 h
    rw [String.append_assoc] at heq
    exact ofList_append_ne (by decide) _ heq.symm
  | fields fs => exact ofList_not_mem_map declaration_start (by decide) fs

theorem closing_not_mem_writingLines (body : RecordBody) : "    \x7d;" ∉ writingLines body := by
  cases body with
  | wrapper value => simp [writingLines]
  | fields fs => exact ofList_not_mem_map writing_start (by decide) fs

/-! #### Fields -/

theorem key_eq_of_writing_eq {f g : Field} (h : writing f = writing g) : f.key = g.key := by
  unfold writing at h
  simp only [String.append_assoc, String.append_right_inj] at h
  exact (keyLiteral_append_injOn h).1

theorem spelling_eq_of_declaration_eq {f g : Field} (hkey : f.key = g.key)
    (h : declaration f = declaration g) : spelling f.type = spelling g.type := by
  unfold declaration at h
  -- The member stands behind the type, so that the two are cut apart from the end.
  rwa [hkey, String.append_left_inj, String.append_left_inj, String.append_left_inj,
    String.append_right_inj] at h

/-- The line that writes a single value writes no field. -/
theorem singleton_ne_map_writing (fs : List Field) : ["        j = r.value;"] ≠ fs.map writing := by
  intro h
  have hmem : "        j = r.value;" ∈ fs.map writing := h ▸ List.mem_singleton_self _
  exact ofList_not_mem_map writing_start (by decide) fs hmem

/-- The lines of the members and those that write them show what a body is. -/
theorem sameBody_of_lines_eq (dumpMacro : Option String) {body body' : RecordBody}
    (hmembers : memberLines body = memberLines body')
    (hwriting : writingLines body = writingLines body') :
    (Target.cpp dumpMacro).SameBody body body' := by
  cases body with
  | wrapper value =>
    cases body' with
    | wrapper value' =>
      have hline := (List.cons.inj hmembers).1
      rw [String.append_left_inj, String.append_right_inj] at hline
      exact .wrapper hline
    | fields gs => exact absurd hwriting (singleton_ne_map_writing gs)
  | fields fs =>
    cases body' with
    | wrapper value' => exact absurd hwriting.symm (singleton_ne_map_writing fs)
    | fields gs =>
      exact Target.sameBody_of_map_eq key_eq_of_writing_eq spelling_eq_of_declaration_eq
        hmembers hwriting

theorem sameBody_of_unlines_eq {dumpMacro : Option String} {r r' : Record}
    (h : unlines (recordLines dumpMacro r) = unlines (recordLines dumpMacro r')) :
    typeIdent r.name = typeIdent r'.name ∧ (Target.cpp dumpMacro).SameBody r.body r'.body := by
  obtain ⟨ending, hframe⟩ := exists_frame_eq dumpMacro
  -- The macro is spliced in as it is, but it is the same in both texts.
  rw [recordLines_eq, recordLines_eq, hframe, hframe, unlines_append, unlines_append,
    String.append_left_inj] at h
  have hclass := unlines_injOn (singleLines_classLines r) (singleLines_classLines r') h
  obtain ⟨htype, hmembers, hwriting⟩ := classLines_injOn (blank_not_mem_memberLines _)
    (blank_not_mem_memberLines _) (closing_not_mem_writingLines _)
    (closing_not_mem_writingLines _) hclass
  exact ⟨htype, sameBody_of_lines_eq dumpMacro hmembers hwriting⟩

end CppHeader

/-! ### Targets -/

/-- **The text of a record determines the record**, as far as generated code shows it: no name and
no key can forge or hide a member, a key or a kind of body. -/
theorem Target.recordText_determines (t : Target) {u v : Record}
    (h : t.recordText u = t.recordText v) :
    t.typeIdent u.name = t.typeIdent v.name ∧ t.SameBody u.body v.body := by
  cases t with
  | rust =>
    have hlines := unlines_injOn (RustModule.singleLines_recordLines u)
      (RustModule.singleLines_recordLines v) h
    obtain ⟨htype, hbody⟩ := RustModule.sameBody_of_recordLines_eq hlines
    exact ⟨htype, hbody⟩
  | cpp dumpMacro => exact CppHeader.sameBody_of_unlines_eq h

/-- A record whose key has a quote inside, and another one that the same code stands for: names are
put in Pascal case, and neither the width `int32` nor what is required of a field shows. -/
theorem Target.recordText_pet :
    let pet : Record := ⟨"pet", .fields [⟨"na\"me", .integer .unspecified, true⟩]⟩
    let pet' : Record := ⟨"Pet", .fields [⟨"na\"me", .integer .int32, false⟩]⟩
    Target.rust.recordText pet = Target.rust.recordText pet' ∧
      Target.rust.typeIdent pet.name = Target.rust.typeIdent pet'.name ∧
      Target.rust.SameBody pet.body pet'.body := by
  intro pet pet'
  have h : Target.rust.recordText pet = Target.rust.recordText pet' := by decide +kernel
  exact ⟨h, Target.rust.recordText_determines h⟩

end SchemaCompiler
