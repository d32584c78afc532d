import Mathlib.Data.List.Chain
import Mathlib.Data.List.Nodup
import SchemaCompiler.Proofs.Schema.Reference

/-!
# What a traversal does

`Schema.visit` is taken apart once.  `Schema.Completes` has one rule for each way in which visiting
a list of targets can go well, `Schema.Fails` one for each way in which it can end early, and
`yields_visit` says that every visit follows these rules.  All that is known about the order of
emission comes from induction over the rules.

Of a traversal that completes: names are only appended (`Completes.isPrefix`), all targets end up
among them (`Completes.mem_of_mem`), nothing on the trail is appended (`Completes.mem_or_notMem`),
and the names stay in dependency order (`Completes.ordered`).

A traversal that fails has met an `Obstruction`: a circle of references, or a reference to a record
that does not exist.  The circle is a stretch of the trail, so what has to be carried along is that
the trail is a chain of references at every moment (`Fails.obstruction`).
-/

namespace SchemaCompiler.Schema

/-! ### The rules -/

/-- Visiting targets in order completes.  The records of `trail` have been entered and not
completed; `done` is completed before and `done'` after. -/
inductive Completes (s : Schema) : (trail done targets done' : List String) → Prop
  | nil {trail done : List String} : Completes s trail done [] done
  /-- The first target is complete already. -/
  | known {trail done rest done' : List String} {target : String} (hd : target ∈ done)
      (hrest : Completes s trail done rest done') : Completes s trail done (target :: rest) done'
  /-- The first target is entered, all that it refers to is completed, and then it is itself. -/
  | enter {trail done rest inner done' : List String} {target : String} {definition : Json}
      (hd : target ∉ done) (ht : target ∉ trail) (hs : s.get? target = some definition)
      (hinner : Completes s (trail ++ [target]) done definition.references inner)
      (hrest : Completes s trail (inner ++ [target]) rest done') :
      Completes s trail done (target :: rest) done'

/-- Visiting targets in order ends with an error. -/
inductive Fails (s : Schema) : (trail done targets : List String) → Error → Prop
  /-- The first target has been entered already. -/
  | circle {trail done rest : List String} {target : String} (hd : target ∉ done)
      (ht : target ∈ trail) : Fails s trail done (target :: rest)
        (.referenceCycle (trail.dropWhile (fun other => other ≠ target) ++ [target]))
  /-- The first target does not exist. -/
  | dangling {trail done rest : List String} {target : String} (hd : target ∉ done)
      (ht : target ∉ trail) (hs : target ∉ s.names) :
      Fails s trail done (target :: rest) (.unresolvedReference target)
  /-- The first target is entered, and something that it refers to fails. -/
  | within {trail done rest : List String} {target : String} {definition : Json} {e : Error}
      (hd : target ∉ done) (ht : target ∉ trail) (hs : s.get? target = some definition)
      (hinner : Fails s (trail ++ [target]) done definition.references e) :
      Fails s trail done (target :: rest) e
  /-- The first target completes, and a later one fails. -/
  | later {trail done next rest : List String} {target : String} {e : Error}
      (hfirst : Completes s trail done [target] next) (hrest : Fails s trail next rest e) :
      Fails s trail done (target :: rest) e

/-- What a result says about the traversal that gave it. -/
def Yields (s : Schema) (trail done targets : List String) : Except Error (List String) → Prop
  | .ok done' => s.Completes trail done targets done'
  | .error e => s.Fails trail done targets e

variable {s : Schema} {trail done targets done' : List String}

theorem Completes.cons {target : String} {next rest : List String}
    (hfirst : s.Completes trail done [target] next) (hrest : s.Completes trail next rest done') :
    s.Completes trail done (target :: rest) done' := by
  cases hfirst with
  | known hd hnil =>
    cases hnil
    exact .known hd hrest
  | enter hd ht hs hinner hnil =>
    cases hnil
    exact .enter hd ht hs hinner hrest

/-- If single visits follow the rules, so does visiting one target after the other. -/
theorem yields_foldlM
    (hvisit : ∀ done target, s.Yields trail done [target] (s.visit trail done target))
    (done targets : List String) :
    s.Yields trail done targets
      (targets.foldlM (fun done target => s.visit trail done target) done) := by
  induction targets generalizing done with
  | nil => exact .nil
  | cons target rest ih =>
    have hfirst := hvisit done target
    rw [List.foldlM_cons]
    cases hv : s.visit trail done target with
    | error e =>
      rw [hv] at hfirst
      -- The single visit failed by one of the rules, and the same rule applies with more to come.
      show s.Fails trail done (target :: rest) e
      cases hfirst with
      | circle hd ht => exact .circle hd ht
      | dangling hd ht hs => exact .dangling hd ht hs
      | within hd ht hs hinner => exact .within hd ht hs hinner
      | later _ hnil => cases hnil
    | ok next =>
      rw [hv] at hfirst
      have hrest := ih next
      show s.Yields trail done (target :: rest)
        (rest.foldlM (fun done target => s.visit trail done target) next)
      cases hr : rest.foldlM (fun done target => s.visit trail done target) next with
      | error e =>
        rw [hr] at hrest
        exact Fails.later hfirst hrest
      | ok last =>
        rw [hr] at hrest
        exact Completes.cons hfirst hrest

/-- A visit to a record that does not exist. -/
theorem visit_of_missing {name : String} (hd : name ∉ done) (ht : name ∉ trail)
    (hs : s.get? name = none) :
    s.visit trail done name = .error (.unresolvedReference name) := by
  rw [visit, if_neg hd, dif_neg ht]
  -- The match keeps the look-up as a proof, so it is split and not rewritten.
  split
  · rfl
  · simp_all

/-- A visit that enters a record. -/
theorem visit_of_get? {name : String} {definition : Json} (hd : name ∉ done) (ht : name ∉ trail)
    (hs : s.get? name = some definition) :
    s.visit trail done name = (do
      let done ← definition.references.foldlM
        (fun done target => s.visit (trail ++ [name]) done target) done
      return done ++ [name]) := by
  rw [visit, if_neg hd, dif_neg ht]
  split <;> simp_all

/-- **Every visit follows the rules.** -/
theorem yields_visit (s : Schema) (trail done : List String) (name : String) :
    s.Yields trail done [name] (s.visit trail done name) := by
  induction trail, done, name using visit.induct s with
  | case1 trail done name hd =>
    rw [visit, if_pos hd]
    exact .known hd .nil
  | case2 trail done name hd ht =>
    rw [visit, if_neg hd, dif_pos ht]
    exact .circle hd ht
  | case3 trail done name hd ht hs =>
    rw [visit_of_missing hd ht hs]
    exact .dangling hd ht (get?_eq_none_iff.1 hs)
  | case4 trail done name hd ht definition hs ih =>
    rw [visit_of_get? hd ht hs]
    have hinner := yields_foldlM ih done definition.references
    cases hr : definition.references.foldlM
        (fun done target => s.visit (trail ++ [name]) done target) done with
    | error e =>
      rw [hr] at hinner
      exact Fails.within hd ht hs hinner
    | ok inner =>
      rw [hr] at hinner
      exact Completes.enter hd ht hs hinner .nil

/-! ### Dependency order -/

/-- Names of records, each of them once and each after everything that it refers to. -/
inductive Ordered (s : Schema) : List String → Prop
  | nil : Ordered s []
  | snoc {done : List String} {name : String} {definition : Json} (h : Ordered s done)
      (hd : name ∉ done) (hs : s.get? name = some definition)
      (hr : ∀ target ∈ definition.references, target ∈ done) : Ordered s (done ++ [name])

theorem Ordered.nodup (h : s.Ordered done) : done.Nodup := by
  induction h with
  | nil => exact List.nodup_nil
  | snoc _ hd _ _ ih =>
    rw [← List.concat_eq_append]
    exact ih.concat hd

theorem Ordered.mem_names (h : s.Ordered done) {name : String} (hn : name ∈ done) :
    name ∈ s.names := by
  induction h with
  | nil => cases hn
  | snoc _ _ hs _ ih =>
    rcases List.mem_append.1 hn with hn | hn
    · exact ih hn
    · rw [List.mem_singleton.1 hn]
      exact mem_names_of_get? hs

/-- A name that stands before another one is on the list. -/
theorem mem_of_idxOf_lt {names : List String} {a b : String} (h : names.idxOf b < names.idxOf a) :
    b ∈ names :=
  List.idxOf_lt_length_iff.1 (h.trans_le List.idxOf_le_length)

/-- What a record refers to stands before it. -/
theorem Ordered.idxOf_lt (h : s.Ordered done) {a b : String} (ha : a ∈ done)
    (hab : s.RefersTo a b) : done.idxOf b < done.idxOf a := by
  induction h with
  | nil => cases ha
  | @snoc done name definition _ hd hs hr ih =>
    by_cases ha' : a ∈ done
    · have hlt := ih ha'
      rwa [List.idxOf_append_of_mem (mem_of_idxOf_lt hlt), List.idxOf_append_of_mem ha']
    · -- Then `a` is the name that comes last, and all its references come before.
      obtain rfl : a = name := by simpa [ha'] using ha
      obtain ⟨definition', hs', hb⟩ := refersTo_iff.1 hab
      obtain rfl : definition = definition' := Option.some.inj (hs.symm.trans hs')
      rw [List.idxOf_append_of_mem (hr b hb), List.idxOf_append_of_notMem hd]
      exact (List.idxOf_lt_length_of_mem (hr b hb)).trans_le (Nat.le_add_right _ _)

/-- Records whose references are all done may follow in any order. -/
theorem Ordered.append (h : s.Ordered done) {names : List String} (hnodup : names.Nodup)
    (hnames : ∀ name ∈ names, name ∈ s.names ∧ name ∉ done)
    (hr : ∀ name ∈ names, ∀ target, s.RefersTo name target → target ∈ done) :
    s.Ordered (done ++ names) := by
  induction names generalizing done with
  | nil => simpa using h
  | cons name rest ih =>
    rw [List.nodup_cons] at hnodup
    obtain ⟨hs, hd⟩ := hnames name List.mem_cons_self
    obtain ⟨definition, hs⟩ := exists_get?_of_mem hs
    have hsnoc : s.Ordered (done ++ [name]) := h.snoc hd hs fun target ht =>
      hr name List.mem_cons_self target (refersTo_iff.2 ⟨definition, hs, ht⟩)
    rw [List.append_cons]
    -- The rest is still off the list: the names are distinct, so none is the one just added.
    refine ih hsnoc hnodup.2 (fun other ho => ?_) (fun other ho target ht => ?_)
    · refine ⟨(hnames other (List.mem_cons_of_mem _ ho)).1, fun hm => ?_⟩
      rcases List.mem_append.1 hm with hm | hm
      · exact (hnames other (List.mem_cons_of_mem _ ho)).2 hm
      · exact hnodup.1 (List.mem_singleton.1 hm ▸ ho)
    · exact List.mem_append_left _ (hr other (List.mem_cons_of_mem _ ho) target ht)

/-! ### Traversals that complete -/

/-- Names are only appended. -/
theorem Completes.isPrefix (h : s.Completes trail done targets done') : done <+: done' := by
  induction h with
  | nil => exact List.prefix_rfl
  | known _ _ ih => exact ih
  | enter _ _ _ _ _ ihinner ihrest =>
    exact ihinner.trans ((List.prefix_append _ _).trans ihrest)

/-- All targets are completed. -/
theorem Completes.mem_of_mem (h : s.Completes trail done targets done') {target : String}
    (ht : target ∈ targets) : target ∈ done' := by
  induction h with
  | nil => cases ht
  | known hd hrest ih =>
    rcases List.mem_cons.1 ht with rfl | ht
    · exact hrest.isPrefix.subset hd
    · exact ih ht
  | enter _ _ _ _ hrest _ ih =>
    rcases List.mem_cons.1 ht with rfl | ht
    · exact hrest.isPrefix.subset (List.mem_append_right _ List.mem_cons_self)
    · exact ih ht

/-- What has been entered and is not complete yet is not completed on the way. -/
theorem Completes.mem_or_notMem (h : s.Completes trail done targets done') {name : String}
    (hn : name ∈ done') : name ∈ done ∨ name ∉ trail := by
  induction h with
  | nil => exact .inl hn
  | known _ _ ih => exact ih hn
  | enter _ ht _ _ _ ihinner ihrest =>
    rcases ihrest hn with hn | hn
    · rcases List.mem_append.1 hn with hn | hn
      · -- Inside, the trail is longer by the target; what is off that one is off this one.
        exact (ihinner hn).imp_right fun hn h => hn (List.mem_append_left _ h)
      · exact .inr (List.mem_singleton.1 hn ▸ ht)
    · exact .inr hn

/-- **The completed names stay in dependency order.**  A record is appended when all that it refers
to is complete, and it cannot have been appended in the meantime, since it was on the trail. -/
theorem Completes.ordered (h : s.Completes trail done targets done') (hdone : s.Ordered done) :
    s.Ordered done' := by
  induction h with
  | nil => exact hdone
  | known _ _ ih => exact ih hdone
  | enter hd _ hs hinner _ ihinner ihrest =>
    refine ihrest ((ihinner hdone).snoc (fun hn => ?_) hs fun target ht => hinner.mem_of_mem ht)
    rcases hinner.mem_or_notMem hn with hn | hn
    · exact hd hn
    · exact hn (List.mem_append_right _ List.mem_cons_self)

/-! ### Traversals that fail -/

/-- Records that refer to each other in a circle, listed from one of them back to itself. -/
def IsCircle (s : Schema) (records : List String) : Prop :=
  records.IsChain s.RefersTo ∧
    ∃ name between, records = name :: between ++ [name] ∧ (name :: between).Nodup

/-- What keeps the records of a schema from being ordered, as an error reports it. -/
inductive Obstruction (s : Schema) : Error → Prop
  | circle {records : List String} (h : s.IsCircle records) :
      Obstruction s (.referenceCycle records)
  | dangling {a target : String} (hr : s.RefersTo a target) (hs : target ∉ s.names) :
      Obstruction s (.unresolvedReference target)

/-- The trail leads to each of the targets: no record stands on it twice, each of them refers to the
next, and the last one to the target. -/
structure LeadsTo (s : Schema) (trail targets : List String) : Prop where
  nodup : trail.Nodup
  chain : ∀ target ∈ targets, (trail ++ [target]).IsChain s.RefersTo
  referred : ∀ target ∈ targets, ∃ a, s.RefersTo a target

theorem LeadsTo.tail {target : String} {rest : List String}
    (h : s.LeadsTo trail (target :: rest)) : s.LeadsTo trail rest where
  nodup := h.nodup
  chain other ho := h.chain other (List.mem_cons_of_mem _ ho)
  referred other ho := h.referred other (List.mem_cons_of_mem _ ho)

/-- From a target that is entered the trail leads on to its references. -/
theorem LeadsTo.enter {target : String} {rest : List String} {definition : Json}
    (h : s.LeadsTo trail (target :: rest)) (ht : target ∉ trail)
    (hs : s.get? target = some definition) :
    s.LeadsTo (trail ++ [target]) definition.references where
  nodup := by
    rw [← List.concat_eq_append]
    exact h.nodup.concat ht
  chain next hn := by
    have hchain := h.chain target List.mem_cons_self
    have hnext : s.RefersTo target next := refersTo_iff.2 ⟨definition, hs, hn⟩
    rw [List.append_assoc, List.singleton_append, List.isChain_append_cons_cons]
    exact ⟨hchain, hnext, List.isChain_singleton next⟩
  referred next hn := ⟨target, refersTo_iff.2 ⟨definition, hs, hn⟩⟩

/-- From a target that is on the trail already, the trail and the target make a circle. -/
theorem LeadsTo.isCircle {target : String} {rest : List String}
    (h : s.LeadsTo trail (target :: rest)) (ht : target ∈ trail) :
    s.IsCircle (trail.dropWhile (fun other => other ≠ target) ++ [target]) := by
  have hchain := h.chain target List.mem_cons_self
  have hnodup := h.nodup
  -- The trail is cut at the first place of the target, and what is left begins and ends with it.
  obtain ⟨before, between, rfl, hbefore⟩ := List.eq_append_cons_of_mem ht
  have hdrop : (before ++ target :: between).dropWhile (fun other => other ≠ target) =
      target :: between := by
    rw [List.dropWhile_append_of_pos fun other ho => by
      simpa using fun heq : other = target => hbefore (heq ▸ ho)]
    simp
  rw [hdrop]
  refine ⟨?_, target, between, rfl, (List.nodup_append.1 hnodup).2.1⟩
  rw [List.append_assoc] at hchain
  exact hchain.right_of_append

/-- **A traversal fails only where something is wrong**: the error names a circle of references, or
a record that some record refers to and that does not exist. -/
theorem Fails.obstruction {e : Error} (h : s.Fails trail done targets e)
    (htrail : s.LeadsTo trail targets) : s.Obstruction e := by
  induction h with
  | circle _ ht => exact .circle (htrail.isCircle ht)
  | dangling _ _ hs =>
    obtain ⟨a, ha⟩ := htrail.referred _ List.mem_cons_self
    exact .dangling ha hs
  | within _ ht hs _ ih => exact ih (htrail.enter ht hs)
  | later _ _ ih => exact ih htrail.tail

end SchemaCompiler.Schema
