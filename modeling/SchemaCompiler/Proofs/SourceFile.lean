import Mathlib.Data.List.Nodup
import SchemaCompiler.Proofs.Outcome
import SchemaCompiler.SourceFile

/-!
# Distinct identifiers

The check before emission passes exactly if the type identifiers of all records are distinct, and so
are the member identifiers of the keys of each record (`Backend.checkIdentifiers_eq_ok_iff`).  Both
scans keep the names that they have seen; the invariant is that the identifiers of these are
distinct, and the scan is about the names seen followed by the names to come.
-/

namespace SchemaCompiler

/-- The causes that lie in two names with the same identifier. -/
def Error.isCollision : Error → Bool
  | .memberCollision _ _ _ _ | .typeCollision _ _ _ => true
  | _ => false

namespace Backend

variable {b : Backend} {record : String} {seen : List String}

theorem clash?_eq_none_iff {ident : String → String} {name : String} :
    clash? ident seen name = none ↔ ident name ∉ seen.map ident := by
  simp only [clash?, List.find?_eq_none, beq_iff_eq, List.mem_map, not_exists, not_and]

/-- Names that are seen and one more without a clash have distinct identifiers. -/
theorem nodup_map_concat {ident : String → String} {name : String}
    (hseen : (seen.map ident).Nodup) (h : clash? ident seen name = none) :
    ((seen ++ [name]).map ident).Nodup := by
  rw [List.map_append, List.map_singleton, ← List.concat_eq_append]
  exact hseen.concat (clash?_eq_none_iff.1 h)

/-- A name that clashes with one that is seen spoils any list that holds both. -/
theorem not_nodup_map_of_clash {ident : String → String} {name first : String}
    (h : clash? ident seen name = some first) (rest : List String) :
    ¬ ((seen ++ name :: rest).map ident).Nodup := by
  intro hnodup
  -- The scan finds the first name with the identifier, but that there is one is all that matters.
  have hmem : ident name ∈ seen.map ident := by
    by_contra hnot
    rw [clash?_eq_none_iff.2 hnot] at h
    cases h
  rw [List.map_append, List.map_cons, List.nodup_append] at hnodup
  exact hnodup.2.2 _ hmem _ List.mem_cons_self rfl

theorem checkMembers_eq_ok_iff {fs : List Field} (hseen : (seen.map b.memberIdent).Nodup) :
    b.checkMembers record seen fs = .ok () ↔
      ((seen ++ fs.map Field.key).map b.memberIdent).Nodup := by
  induction fs generalizing seen with
  | nil => simpa [checkMembers] using hseen
  | cons f rest ih =>
    rw [checkMembers, List.map_cons]
    cases hclash : clash? b.memberIdent seen f.key with
    | some first =>
      refine ⟨fun h => ?_, fun h => absurd h (not_nodup_map_of_clash hclash _)⟩
      cases h
    | none =>
      rw [List.append_cons seen f.key (rest.map Field.key)]
      exact ih (nodup_map_concat hseen hclash)

theorem checkRecords_eq_ok_iff {rs : List Record} (hseen : (seen.map b.typeIdent).Nodup) :
    b.checkRecords seen rs = .ok () ↔
      ((seen ++ rs.map Record.name).map b.typeIdent).Nodup ∧
        ∀ r ∈ rs, (r.fields.map fun f => b.memberIdent f.key).Nodup := by
  induction rs generalizing seen with
  | nil => simpa [checkRecords] using hseen
  | cons r rest ih =>
    rw [checkRecords, List.map_cons]
    cases hclash : clash? b.typeIdent seen r.name with
    | some first =>
      refine ⟨fun h => ?_, fun h => absurd h.1 (not_nodup_map_of_clash hclash _)⟩
      cases h
    | none =>
      have hmembers : b.checkMembers r.name [] r.fields = .ok () ↔
          (r.fields.map fun f => b.memberIdent f.key).Nodup := by
        rw [checkMembers_eq_ok_iff (by simp), List.nil_append, List.map_map]
        rfl
      have hrest := ih (nodup_map_concat hseen hclash)
      rw [List.append_cons seen r.name (rest.map Record.name), List.forall_mem_cons, ← hmembers,
        and_left_comm, ← hrest]
      refine Except.bind_eq_ok_iff.trans ⟨?_, ?_⟩
      · rintro ⟨_, hm, hr⟩
        exact ⟨hm, hr⟩
      · rintro ⟨hm, hr⟩
        exact ⟨(), hm, hr⟩

/-- **The check passes exactly if identifiers are distinct**: those of the types, and those of the
members of each record. -/
theorem checkIdentifiers_eq_ok_iff {rs : List Record} :
    b.checkIdentifiers rs = .ok () ↔ (rs.map fun r => b.typeIdent r.name).Nodup ∧
      ∀ r ∈ rs, (r.fields.map fun f => b.memberIdent f.key).Nodup := by
  rw [checkIdentifiers, checkRecords_eq_ok_iff (by simp), List.nil_append, List.map_map]
  rfl

theorem isCollision_of_checkMembers {fs : List Field} {e : Error}
    (h : b.checkMembers record seen fs = .error e) : e.isCollision := by
  fun_induction checkMembers b record seen fs with
  | case1 => cases h
  | case2 =>
    obtain rfl := Except.error.inj h
    rfl
  | case3 _ _ _ _ ih => exact ih h

/-- The check fails only because of a collision. -/
theorem isCollision_of_checkRecords {rs : List Record} {e : Error}
    (h : b.checkRecords seen rs = .error e) : e.isCollision := by
  fun_induction checkRecords b seen rs with
  | case1 => cases h
  | case2 =>
    obtain rfl := Except.error.inj h
    rfl
  | case3 _ _ _ _ ih =>
    rcases Except.bind_eq_error_iff.1 h with h | ⟨_, _, h⟩
    · exact isCollision_of_checkMembers h
    · exact ih h

/-- A file is emitted if identifiers are distinct, with one unit for each record, in order. -/
theorem emit_eq_ok_iff {space : String} {rs : List Record} {file : SourceFile} :
    b.emit space rs = .ok file ↔ b.checkIdentifiers rs = .ok () ∧
      file = ⟨b.prologue space, rs.map fun r => ⟨r.name, b.recordText r⟩, b.epilogue space⟩ := by
  rw [emit, Except.bind_eq_ok_iff]
  constructor
  · rintro ⟨_, hcheck, h⟩
    exact ⟨hcheck, (Except.ok.inj h).symm⟩
  · rintro ⟨hcheck, rfl⟩
    exact ⟨(), hcheck, rfl⟩

/-- Emission fails only if the check does. -/
theorem emit_eq_error_iff {space : String} {rs : List Record} {e : Error} :
    b.emit space rs = .error e ↔ b.checkIdentifiers rs = .error e := by
  rw [emit, Except.bind_eq_error_iff]
  simp [pure, Except.pure]

end Backend

namespace Target

variable {t : Target}

theorem checkIdentifiers_eq_ok_iff {rs : List Record} :
    t.checkIdentifiers rs = .ok () ↔ (rs.map fun r => t.typeIdent r.name).Nodup ∧
      ∀ r ∈ rs, (r.fields.map fun f => t.memberIdent f.key).Nodup :=
  Backend.checkIdentifiers_eq_ok_iff (b := t.backend)

theorem emit_eq_ok_iff {space : String} {rs : List Record} {file : SourceFile} :
    t.emit space rs = .ok file ↔ t.checkIdentifiers rs = .ok () ∧
      file = ⟨t.prologue space, rs.map fun r => ⟨r.name, t.recordText r⟩, t.epilogue⟩ :=
  Backend.emit_eq_ok_iff (b := t.backend)

theorem isCollision_of_emit {space : String} {rs : List Record} {e : Error}
    (h : t.emit space rs = .error e) : e.isCollision :=
  Backend.isCollision_of_checkRecords (Backend.emit_eq_error_iff.1 h)

end Target

end SchemaCompiler
