import SchemaCompiler.Proofs.Schema.Unfolding
import SchemaCompiler.Schema.Progress

/-!
# What a traversal comes to

A traversal that changes one state comes to the same as one that hands its trail down and only the
completed names on (`Schema.comesTo_outcome`).  So every call comes to something, whatever the
schema, and a call that succeeds leaves the trail as it found it.

Both are proved at once, for neither comes first.  The calls within a call are measured by the
records that are not on the trail, and with the same trail by the value that is walked through.
That a later call of a walk finds the trail of the first one, which the measure needs, is known from
what the calls before it come to.

`Schema.ComesTo` has one rule for each way in which a call can go.
-/

namespace SchemaCompiler.Schema

variable {s : Schema} {p p' : Progress} {call : Call} {calls : List Call} {name : String}
  {j definition : Json}

namespace Call

/-- The records that a call is to complete, apart from those behind them. -/
def targets : Call → List String
  | walk j => j.references
  | visit name => [name]

/-- What a call comes to if the trail is handed down and only the completed names are handed on. -/
def outcome (s : Schema) (p : Progress) : Call → Except Error Progress
  | walk j => (s.walk p.trail p.done j).map (Progress.mk p.trail)
  | visit name => (s.visit p.trail p.done name).map (Progress.mk p.trail)

/-! ### What a value calls for -/

theorem targets_ofEntry (e : String × Json) :
    (ofEntry e).toList.flatMap targets = Json.entryReference e.1 e.2 ++ e.2.references := by
  obtain ⟨key, value⟩ := e
  cases value with
  | str r =>
    by_cases hkey : key = "$ref"
    · simp [ofEntry, targets, Json.entryReference, Json.references, hkey]
    · simp [ofEntry, Json.entryReference, Json.references, hkey]
  | arr items | obj entries => simp [ofEntry, targets, Json.entryReference]
  | null | bool _ | num _ => simp [ofEntry, Json.entryReference, Json.references]

/-- A value calls for the records that it refers to. -/
theorem targets_within (j : Json) : (within j).flatMap targets = j.references := by
  cases j with
  | obj entries =>
    rw [within, Json.references]
    induction entries with
    | nil => rfl
    | cons e rest ih =>
      have hcons : (e :: rest).filterMap ofEntry =
          (ofEntry e).toList ++ rest.filterMap ofEntry := by
        cases he : ofEntry e <;> simp [he]
      rw [hcons, List.flatMap_append, targets_ofEntry, ih, Json.entryReferences]
  | arr items =>
    rw [within, Json.references]
    induction items with
    | nil => rfl
    | cons item rest ih => rw [List.map_cons, List.flatMap_cons, ih, Json.itemReferences, targets]
  | null | bool _ | num _ | str _ => rfl

/-- What a value calls for is to walk through a part of it, or to visit what a part refers to. -/
theorem exists_part_of_mem_within (h : call ∈ within j) : ∃ part ∈ j.parts,
    call = walk part.2 ∨ ∃ r, part = ("$ref", .str r) ∧ call = visit (Reference.target r) := by
  cases j with
  | obj entries =>
    obtain ⟨⟨key, value⟩, hentry, hcall⟩ := List.mem_filterMap.1 h
    refine ⟨(key, value), hentry, ?_⟩
    cases value with
    | str r =>
      simp only [ofEntry, Option.ite_none_right_eq_some, Option.some.injEq] at hcall
      obtain ⟨rfl, rfl⟩ := hcall
      exact .inr ⟨r, rfl, rfl⟩
    | arr _ | obj _ => exact .inl (Option.some.inj hcall).symm
    | null | bool _ | num _ => cases hcall
  | arr items =>
    obtain ⟨item, hitem, rfl⟩ := List.mem_map.1 h
    exact ⟨("", item), List.mem_map_of_mem hitem, .inl rfl⟩
  | null | bool _ | num _ | str _ => cases h

/-- The size of what a call walks through before it enters a record. -/
noncomputable def extent : Call → Nat
  | walk j => sizeOf j
  | visit _ => 0

theorem extent_lt_of_mem_within (h : call ∈ within j) : call.extent < (walk j).extent := by
  obtain ⟨part, hpart, rfl | ⟨r, rfl, rfl⟩⟩ := exists_part_of_mem_within h
  · exact sizeOf_lt_of_mem_parts hpart
  · exact (Nat.zero_le _).trans_lt (sizeOf_lt_of_mem_parts hpart)

end Call

/-! ### Targets one after the other -/

/-- What it comes to that targets are visited one after the other. -/
def visitAll (s : Schema) (p : Progress) (targets : List String) : Except Error Progress :=
  (targets.foldlM (fun done target => s.visit p.trail done target) p.done).map
    (Progress.mk p.trail)

theorem outcome_eq_visitAll (s : Schema) (p : Progress) (call : Call) :
    call.outcome s p = s.visitAll p call.targets := by
  cases call with
  | walk j => rfl
  | visit name => simp [Call.outcome, visitAll, Call.targets]

theorem visitAll_append (first rest : List String) :
    s.visitAll p (first ++ rest) =
      (s.visitAll p first).bind fun p' => s.visitAll p' rest := by
  rw [visitAll, visitAll, List.foldlM_append]
  cases first.foldlM (fun done target => s.visit p.trail done target) p.done <;> rfl

/-- Visits leave the trail as it is, and complete the targets. -/
theorem completes_of_visitAll {targets : List String} (h : s.visitAll p targets = .ok p') :
    p'.trail = p.trail ∧ s.Completes p.trail p.done targets p'.done := by
  obtain ⟨done', hdone, rfl⟩ := Except.map_eq_ok_iff.1 h
  have hyields := yields_foldlM (yields_visit s p.trail) p.done targets
  rw [hdone] at hyields
  exact ⟨rfl, hyields⟩

/-! ### Calls -/

/-- To enter a record, to walk through its definition and to leave it is to visit it. -/
theorem leave_walk (hd : name ∉ p.done) (ht : name ∉ p.trail)
    (hs : s.get? name = some definition) :
    ((Call.walk definition).outcome s (p.enter name)).map (fun p' => p'.leave name) =
      (Call.visit name).outcome s p := by
  rw [Progress.enter_of_notMem ht, Call.outcome, Call.outcome, visit_of_get? hd ht hs, ← walk]
  cases hwalk : s.walk (p.trail ++ [name]) p.done definition with
  | error e => rfl
  | ok inner =>
    have hyields := yields_foldlM (yields_visit s (p.trail ++ [name])) p.done definition.references
    rw [← walk, hwalk] at hyields
    -- The record is on the trail during the walk, so the walk has not completed it.
    have hnew : name ∉ inner := fun hn =>
      (Completes.mem_or_notMem hyields hn).elim hd fun hn => hn (by simp)
    exact congrArg Except.ok (Progress.leave_concat ht hnew)

/-- To enter a record leaves fewer records off the trail. -/
theorem length_offTrail_enter_lt (ht : name ∉ p.trail) (hs : s.get? name = some definition) :
    (s.offTrail (p.enter name).trail).length < (s.offTrail p.trail).length := by
  rw [Progress.enter_of_notMem ht]
  exact length_offTrail_lt (mem_names_of_get? hs) ht

theorem performAll_singleton (depth : Nat) : s.performAll depth p [call] = s.perform depth p call :=
  bind_pure _

theorem run_performAll_cons {rest : List Call} {depth : Nat} {r : Except Error Progress}
    (h : (s.performAll depth p [call]).run = some r) :
    (s.performAll depth p (call :: rest)).run = match r with
      | .ok p' => (s.performAll depth p' rest).run
      | .error e => some (.error e) := by
  rw [performAll_singleton] at h
  rw [performAll, List.foldlM_cons, ExceptT.run_bind, h]
  cases r <;> rfl

namespace ComesTo

variable {rest : List Call} {r r' : Except Error Progress} {e : Error}

theorem unique (h : s.ComesTo p calls r) (h' : s.ComesTo p calls r') : r = r' := by
  obtain ⟨enough, h⟩ := h
  obtain ⟨enough', h'⟩ := h'
  have hrun := h (max enough enough') (le_max_left _ _)
  rw [h' (max enough enough') (le_max_right _ _)] at hrun
  exact (Option.some.inj hrun).symm

theorem nil (s : Schema) (p : Progress) : s.ComesTo p [] (.ok p) :=
  ⟨0, fun _ _ => rfl⟩

theorem cons (h : s.ComesTo p [call] (.ok p')) (h' : s.ComesTo p' rest r) :
    s.ComesTo p (call :: rest) r := by
  obtain ⟨enough, h⟩ := h
  obtain ⟨enough', h'⟩ := h'
  refine ⟨max enough enough', fun depth hdepth => ?_⟩
  rw [run_performAll_cons (h depth ((le_max_left _ _).trans hdepth))]
  exact h' depth ((le_max_right _ _).trans hdepth)

theorem cons_error (h : s.ComesTo p [call] (.error e)) :
    s.ComesTo p (call :: rest) (.error e) := by
  obtain ⟨enough, h⟩ := h
  exact ⟨enough, fun depth hdepth => run_performAll_cons (h depth hdepth)⟩

/-- A limit on what a call calls for is one less than on the call. -/
theorem of_succ
    (h : ∃ enough, ∀ depth, enough ≤ depth → (s.perform (depth + 1) p call).run = some r) :
    s.ComesTo p [call] r := by
  obtain ⟨enough, h⟩ := h
  refine ⟨enough + 1, fun depth hdepth => ?_⟩
  obtain ⟨inner, rfl⟩ : ∃ inner, depth = inner + 1 := ⟨depth - 1, by omega⟩
  rw [performAll_singleton]
  exact h inner (by omega)

/-- A walk comes to what its calls come to. -/
theorem walk (h : s.ComesTo p (Call.within j) r) : s.ComesTo p [.walk j] r :=
  .of_succ h

theorem known (hd : name ∈ p.done) : s.ComesTo p [.visit name] (.ok p) := by
  refine .of_succ ⟨0, fun depth _ => ?_⟩
  rw [perform, if_pos hd]
  rfl

theorem circle (hd : name ∉ p.done) (ht : name ∈ p.trail) : s.ComesTo p [.visit name]
    (.error (.referenceCycle (p.trail.dropWhile (fun other => other ≠ name) ++ [name]))) := by
  refine .of_succ ⟨0, fun depth _ => ?_⟩
  rw [perform, if_neg hd, if_pos ht]
  rfl

theorem missing (hd : name ∉ p.done) (ht : name ∉ p.trail) (hs : s.resolve name = .error e) :
    s.ComesTo p [.visit name] (.error e) := by
  refine .of_succ ⟨0, fun depth _ => ?_⟩
  rw [perform, if_neg hd, if_neg ht, hs]
  rfl

theorem enter (hd : name ∉ p.done) (ht : name ∉ p.trail) (hs : s.resolve name = .ok definition)
    (h : s.ComesTo (p.enter name) [.walk definition] r) :
    s.ComesTo p [.visit name] (r.map fun p' => p'.leave name) := by
  obtain ⟨enough, h⟩ := h
  refine .of_succ ⟨enough, fun depth hdepth => ?_⟩
  have hwalk := h depth hdepth
  rw [performAll_singleton] at hwalk
  rw [perform, if_neg hd, if_neg ht, hs]
  show (s.perform depth (p.enter name) (.walk definition) >>=
    fun p' => pure (p'.leave name)).run = _
  rw [ExceptT.run_bind, hwalk]
  cases r <;> rfl

end ComesTo

/-- If each of the calls comes to its outcome, so do all of them, one after the other. -/
theorem comesTo_of_forall (h : ∀ call ∈ calls, ∀ p', p'.trail = p.trail →
      s.ComesTo p' [call] (call.outcome s p')) :
    s.ComesTo p calls (s.visitAll p (calls.flatMap Call.targets)) := by
  induction calls generalizing p with
  | nil => exact .nil s p
  | cons call rest ih =>
    have hfirst := h call List.mem_cons_self p rfl
    rw [List.flatMap_cons, visitAll_append, ← outcome_eq_visitAll]
    cases hp : call.outcome s p with
    | error e =>
      rw [hp] at hfirst
      exact hfirst.cons_error
    | ok p' =>
      rw [hp] at hfirst
      rw [outcome_eq_visitAll] at hp
      have htrail : p'.trail = p.trail := (completes_of_visitAll hp).1
      exact hfirst.cons (ih fun call hcall p'' hp'' =>
        h call (List.mem_cons_of_mem _ hcall) p'' (hp''.trans htrail))

/-- **Every call comes to an end**, and to the outcome of the functions that hand the trail down. -/
theorem comesTo_outcome (s : Schema) (p : Progress) (call : Call) :
    s.ComesTo p [call] (call.outcome s p) := by
  cases call with
  | walk j =>
    refine .walk ?_
    rw [outcome_eq_visitAll, Call.targets, ← Call.targets_within]
    -- Every call starts from the trail of the walk, so that what it walks through decides.
    exact comesTo_of_forall fun call hcall p' hp' => comesTo_outcome s p' call
  | visit name =>
    by_cases hd : name ∈ p.done
    · rw [Call.outcome, visit, if_pos hd]
      exact .known hd
    by_cases ht : name ∈ p.trail
    · rw [Call.outcome, visit, if_neg hd, dif_pos ht]
      exact .circle hd ht
    cases hs : s.get? name with
    | none =>
      rw [Call.outcome, visit_of_missing hd ht hs]
      exact .missing hd ht (resolve_eq_error_iff.2 ⟨get?_eq_none_iff.1 hs, rfl⟩)
    | some definition =>
      rw [← leave_walk hd ht hs]
      exact .enter hd ht (resolve_eq_ok_iff.2 hs) (comesTo_outcome s (p.enter name) _)
termination_by ((s.offTrail p.trail).length, call.extent)
decreasing_by
  · rw [hp']
    exact Prod.Lex.right _ (Call.extent_lt_of_mem_within hcall)
  · exact Prod.Lex.left _ _ (length_offTrail_enter_lt ht hs)

/-- **What calls come to is what it comes to that their targets are visited.** -/
theorem comesTo_iff {r : Except Error Progress} :
    s.ComesTo p calls r ↔ s.visitAll p (calls.flatMap Call.targets) = r := by
  have hcalls : s.ComesTo p calls (s.visitAll p (calls.flatMap Call.targets)) :=
    comesTo_of_forall fun call _ p' _ => comesTo_outcome s p' call
  exact ⟨hcalls.unique, fun h => h ▸ hcalls⟩

/-- Calls that succeed leave the trail as it is, and complete their targets. -/
theorem ComesTo.completes (h : s.ComesTo p calls (.ok p')) :
    p'.trail = p.trail ∧ s.Completes p.trail p.done (calls.flatMap Call.targets) p'.done :=
  completes_of_visitAll (comesTo_iff.1 h)

theorem targets_calls (s : Schema) : s.calls.flatMap Call.targets = s.allReferences :=
  List.flatMap_map ..

/-- The traversal of a schema comes to an end, and completes the referenced records. -/
theorem comesTo_referenced (s : Schema) :
    s.ComesTo .start s.calls (s.referenced.map (Progress.mk [])) := by
  rw [comesTo_iff, targets_calls, referenced_eq]
  rfl

end SchemaCompiler.Schema
