import SchemaCompiler.Proofs.Record.Grammar
import SchemaCompiler.Proofs.Target.TypeSpelling

/-!
# Arrays around a field

A definition may stand in arrays of any depth, each of which may have keys that would mean
something in a definition of another kind.  `Json.InArrays` says which values are arrays around a
definition, by their `type` and `items` alone.

* `FieldType.arrays_around_field`: arrays around a definition are arrays around its type, and around
  the spelling of its type.  What is wrong with a definition is not changed by them: the error shows
  the value that is wrong, which is the innermost one, and not the whole.
-/

namespace SchemaCompiler

open FieldType (array)

/-- The definition that an error shows. -/
def Error.definition? : Error → Option Json
  | unknownFieldKind d | missingNumberFormat d | missingArrayItems d => some d
  | _ => none

/-- The wording ends with the definition that is shown. -/
theorem Error.message_of_definition? {e : Error} {d : Json} (h : e.definition? = some d) :
    ∃ wording, e.message = wording ++ d.text := by
  cases e with
  | unknownFieldKind | missingNumberFormat | missingArrayItems =>
    obtain rfl := Option.some.inj h
    exact ⟨_, rfl⟩
  | _ => cases h

namespace Json

/-- The value is the definition `d` in `depth` arrays.  Whatever else the arrays have is of no
account. -/
inductive InArrays (d : Json) : (depth : Nat) → Json → Prop
  | zero : InArrays d 0 d
  | succ {depth : Nat} {inner w : Json} (htype : w.get? "type" = some (.str "array"))
      (hitems : w.get? "items" = some inner) (h : InArrays d depth inner) :
      InArrays d (depth + 1) w

/-- The definition is not that of an array with items. -/
def IsInnermost (d : Json) : Prop :=
  d.get? "type" = some (.str "array") → d.get? "items" = none

variable {d w v : Json} {depth : Nat} {e : Error}

/-- What is wrong with a field is wrong with the innermost definition of its arrays. -/
theorem FieldFault.exists_innermost (h : d.FieldFault e) :
    ∃ depth innermost, innermost.InArrays depth d ∧ innermost.IsInnermost ∧
      innermost.FieldFault e ∧ e.definition? = some innermost := by
  induction h with
  | untyped htype h =>
    refine ⟨0, _, .zero, fun harray => ?_, .untyped htype h, rfl⟩
    cases htype.symm.trans harray
  | kind htype h =>
    refine ⟨0, _, .zero, fun harray => ?_, .kind htype h, rfl⟩
    exact absurd (Option.some.inj (htype.symm.trans harray)) (h "array" (by simp))
  | format htype h =>
    refine ⟨0, _, .zero, fun harray => ?_, .format htype h, rfl⟩
    simp [htype] at harray
  | items htype h => exact ⟨0, _, .zero, fun _ => h, .items htype h, rfl⟩
  | item htype hitems _ ih =>
    obtain ⟨depth, innermost, hin, hrest⟩ := ih
    exact ⟨depth + 1, innermost, .succ htype hitems hin, hrest⟩

theorem InArrays.trans {depth' : Nat} (h : d.InArrays depth v) (h' : v.InArrays depth' w) :
    d.InArrays (depth + depth') w := by
  induction h' with
  | zero => exact h
  | succ htype hitems _ ih => exact .succ htype hitems ih

/-! ### Texts within texts -/

theorem isInfix_intercalate {sep t : String} {texts : List String} (h : t ∈ texts) :
    t.toList <:+: (String.intercalate sep texts).toList := by
  induction texts with
  | nil => cases h
  | cons first rest ih =>
    cases rest with
    | nil => simp [List.mem_singleton.1 h, String.intercalate_singleton]
    | cons second rest =>
      rw [String.intercalate_cons_cons, String.toList_append, String.toList_append]
      rcases List.mem_cons.1 h with rfl | h
      · rw [List.append_assoc]
        exact (List.prefix_append _ _).isInfix
      · exact (ih h).trans (List.suffix_append _ _).isInfix

theorem mem_entryTexts {entries : Entries Json} {key : String} (h : (key, v) ∈ entries) :
    stringText key ++ ":" ++ v.text ∈ entryTexts entries := by
  induction entries with
  | nil => cases h
  | cons e rest ih =>
    rw [entryTexts]
    rcases List.mem_cons.1 h with rfl | h
    · exact List.mem_cons_self
    · exact List.mem_cons_of_mem _ (ih h)

/-- The text of a value under a key is shorter than that of the whole object. -/
theorem length_text_lt_of_get? {key : String} (h : w.get? key = some v) :
    v.text.length < w.text.length := by
  cases w with
  | obj entries =>
    have hmem := mem_entryTexts (Entries.mem_of_get?_eq_some h)
    have hlength : (stringText key ++ ":" ++ v.text).toList.length ≤
        (String.intercalate "," (entryTexts entries)).toList.length :=
      (isInfix_intercalate hmem).length_le
    have hopen : "\x7b".length = 1 := rfl
    rw [text]
    simp only [String.length_toList, String.length_append] at hlength ⊢
    omega
  | _ => cases h

theorem InArrays.length_text_le (h : d.InArrays depth w) :
    d.text.length + depth ≤ w.text.length := by
  induction h with
  | zero => exact le_rfl
  | succ _ hitems _ ih =>
    have hlt := length_text_lt_of_get? hitems
    omega

end Json

namespace FieldType

variable {d w : Json} {depth : Nat} {e : Error}

theorem ofDefinition_inArrays (h : d.InArrays depth w) :
    ofDefinition w = (ofDefinition d).map array^[depth] := by
  induction h with
  | zero => cases ofDefinition d <;> rfl
  | succ htype hitems _ ih =>
    rw [ofDefinition_of_items htype hitems, ih, Function.iterate_succ']
    cases ofDefinition d <;> rfl

theorem arrayDepth_iterate_array (depth : Nat) (type : FieldType) :
    (array^[depth] type).arrayDepth = type.arrayDepth + depth := by
  induction depth with
  | zero => rfl
  | succ depth ih =>
    rw [Function.iterate_succ_apply', arrayDepth, ih, Nat.add_assoc]

theorem spelling_iterate_array (t : Target) (depth : Nat) (type : FieldType) :
    t.spelling (array^[depth] type) = Text.concat (List.replicate depth t.arrayOpening) ++
      t.spelling type ++ Text.concat (List.replicate depth ">") := by
  induction depth with
  | zero => simp [Text.concat]
  | succ depth ih =>
    -- An array has one more bracket in front and one more at the end.
    have hopening : Text.concat (List.replicate (depth + 1) t.arrayOpening) =
        t.arrayOpening ++ Text.concat (List.replicate depth t.arrayOpening) := by
      rw [List.replicate_succ, Text.concat]
    have hclosing : Text.concat (List.replicate (depth + 1) ">") =
        Text.concat (List.replicate depth ">") ++ ">" := by
      rw [List.replicate_succ', Text.concat_append, Text.concat_singleton]
    rw [Function.iterate_succ_apply', Target.spelling_array, ih, hopening, hclosing]
    simp only [String.append_assoc]

/-- **Arrays around a definition are arrays around its type.**  The type has as many more arrays
around it, and its spelling in either language as many more brackets.  A definition with a fault has
the same fault in any arrays: the error shows the innermost value, which is the faulty one, and
nothing of what is around it. -/
theorem arrays_around_field (h : d.InArrays depth w) :
    (∀ type, ofDefinition d = .ok type →
      ofDefinition w = .ok (array^[depth] type) ∧
      (array^[depth] type).arrayDepth = type.arrayDepth + depth ∧
      Target.rust.spelling (array^[depth] type) =
        Text.concat (List.replicate depth "Vec<") ++ Target.rust.spelling type ++
          Text.concat (List.replicate depth ">") ∧
      ∀ dumpMacro, (Target.cpp dumpMacro).spelling (array^[depth] type) =
        Text.concat (List.replicate depth "std::vector<") ++
          (Target.cpp dumpMacro).spelling type ++ Text.concat (List.replicate depth ">")) ∧
    ∀ e, ofDefinition d = .error e →
      ofDefinition w = .error e ∧
      ∃ below innermost, innermost.InArrays below d ∧ innermost.IsInnermost ∧
        innermost.FieldFault e ∧ e.definition? = some innermost ∧
        (∃ wording, e.message = wording ++ innermost.text) ∧
        (depth ≠ 0 → innermost.text ≠ w.text) := by
  have harrays := ofDefinition_inArrays h
  refine ⟨fun type hd => ?_, fun e hd => ?_⟩
  · refine ⟨by rw [harrays, hd]; rfl, arrayDepth_iterate_array depth type,
      spelling_iterate_array .rust depth type, fun dumpMacro => ?_⟩
    exact spelling_iterate_array (.cpp dumpMacro) depth type
  · have hfault : d.FieldFault e := (d.settledBy_ofDefinition.error_iff e).1 hd
    obtain ⟨below, innermost, hin, hinnermost, hfault, hshown⟩ := hfault.exists_innermost
    refine ⟨by rw [harrays, hd]; rfl, below, innermost, hin, hinnermost, hfault, hshown,
      e.message_of_definition? hshown, fun hdepth heq => ?_⟩
    -- The text of the innermost value is shorter than that of the whole.
    have hle : innermost.text.length + (below + depth) ≤ w.text.length :=
      (hin.trans h).length_text_le
    rw [heq] at hle
    omega

/-- An array whose items are arrays.  Both have keys that would mean something without a `type`. -/
def gridOf (d : Json) : Json :=
  .obj [("$ref", .str "#/definitions/Owner"), ("type", .str "array"), ("format", .str "float"),
    ("items", .obj [("items", d), ("properties", .obj []), ("type", .str "array")])]

theorem inArrays_gridOf (d : Json) : d.InArrays 2 (gridOf d) :=
  .succ rfl rfl (.succ rfl rfl .zero)

/-- Pets in arrays, and a number without a format in an array more than is around it. -/
theorem gridOf_arrays_around_field :
    ofDefinition (gridOf (.obj [("$ref", .str "#/definitions/Pet")])) =
        .ok (.array (.array (.record "Pet"))) ∧
      Target.rust.spelling (.array (.array (.record "Pet"))) = "Vec<Vec<Pet>>" ∧
      ofDefinition (gridOf (.obj [("type", .str "array"),
          ("items", .obj [("type", .str "number")])])) =
        .error (.missingNumberFormat (.obj [("type", .str "number")])) := by
  have href : ofDefinition (.obj [("$ref", .str "#/definitions/Pet")]) = .ok (.record "Pet") := by
    with_unfolding_all rfl
  have hnumber : ofDefinition (.obj [("type", .str "array"),
      ("items", .obj [("type", .str "number")])]) =
        .error (.missingNumberFormat (.obj [("type", .str "number")])) := by
    with_unfolding_all rfl
  obtain ⟨hpets, -⟩ := arrays_around_field (inArrays_gridOf _)
  obtain ⟨-, hnumbers⟩ := arrays_around_field (inArrays_gridOf _)
  obtain ⟨htype, -, hrust, -⟩ := hpets _ href
  exact ⟨htype, hrust.trans (by decide +kernel), (hnumbers _ hnumber).1⟩

end FieldType

end SchemaCompiler
