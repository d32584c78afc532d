import Mathlib.Data.Prod.Lex
import Mathlib.Logic.Relation
import SchemaCompiler.Proofs.Schema.Progress

/-!
# Calls within calls

`Schema.Calls` says which calls a call makes while it runs, and `Schema.Reached` which calls the
traversal of a schema makes at all, each with the progress it starts from.

* `traversal_terminates`: nested calls come to an end, whatever the schema.  Each of them leads down
  into the value that is walked through, or enters a record that has not been entered, and of those
  there are no more than the schema has records.
* `traversal_invariant`: whenever a call starts, the trail is a chain of references, what is done is
  closed under references, and the two have nothing in common.  A call that succeeds puts the trail
  back and has completed what it was to complete.

The invariant that carries an induction over nested calls is `Progress.Leads`: besides what holds of
the progress, it says that the trail leads to whatever is to be visited next.
-/

namespace SchemaCompiler.Schema

open Relation

variable {s : Schema} {p p' : Progress} {call call' : Call} {calls : List Call} {name : String}

/-- The first call makes the second one while it runs.  Each stands with the progress that it starts
from. -/
inductive Calls (s : Schema) : Progress × Call → Progress × Call → Prop
  /-- A walk makes the calls of its value one after the other, as long as they succeed. -/
  | within {p p' : Progress} {j : Json} {before after : List Call} {call : Call}
      (hj : Call.within j = before ++ call :: after) (hp : s.ComesTo p before (.ok p')) :
      Calls s (p, .walk j) (p', call)
  /-- A visit walks through the definition of a record that is neither done nor on the trail. -/
  | enter {p : Progress} {name : String} {definition : Json} (hd : name ∉ p.done)
      (ht : name ∉ p.trail) (hs : s.resolve name = .ok definition) :
      Calls s (p, .visit name) (p.enter name, .walk definition)

/-- The traversal of a schema makes the call, starting from the progress. -/
inductive Reached (s : Schema) : Progress → Call → Prop
  /-- The definitions are walked one after the other, as long as the walks succeed. -/
  | start {p : Progress} {before after : List Call} {call : Call}
      (hs : s.calls = before ++ call :: after) (hp : s.ComesTo .start before (.ok p)) :
      Reached s p call
  | next {p p' : Progress} {call call' : Call} (h : Reached s p call)
      (hcall : s.Calls (p, call) (p', call')) : Reached s p' call'

/-! ### Nested calls come to an end -/

/-- What the inner call is for is a part of the value that the outer call walks through. -/
def Descends (outer inner : Progress × Call) : Prop :=
  ∃ j part, outer.2 = .walk j ∧ part ∈ j.parts ∧ inner.1.trail = outer.1.trail ∧
    (inner.2 = .walk part.2 ∨
      ∃ r, part = ("$ref", .str r) ∧ inner.2 = .visit (Reference.target r))

/-- The outer call enters a record that is neither on the trail nor done, and the inner call walks
through its definition. -/
def Enters (s : Schema) (outer inner : Progress × Call) : Prop :=
  ∃ name definition, outer.2 = .visit name ∧ (name, definition) ∈ s.records ∧
    name ∉ outer.1.trail ∧ name ∉ outer.1.done ∧
    inner = (⟨outer.1.trail ++ [name], outer.1.done⟩, .walk definition)

theorem Calls.descends_or_enters {outer inner : Progress × Call} (h : s.Calls outer inner) :
    Descends outer inner ∨ s.Enters outer inner := by
  cases h with
  | @within p p' j before after call hj hp =>
    have hmem : call ∈ Call.within j := by simp [hj]
    obtain ⟨part, hpart, hcall⟩ := Call.exists_part_of_mem_within hmem
    exact .inl ⟨_, part, rfl, hpart, hp.completes.1, hcall⟩
  | enter hd ht hs =>
    have hrecord := get?_eq_some_iff.1 (resolve_eq_ok_iff.1 hs)
    exact .inr ⟨_, _, rfl, hrecord, ht, hd, by rw [Progress.enter_of_notMem ht]⟩

/-- The measure of a call: the records that it may still enter, and then what it walks through. -/
noncomputable def measure (s : Schema) (c : Progress × Call) : Nat × Nat :=
  ((s.offTrail c.1.trail).length, c.2.extent)

theorem Calls.measure_lt {outer inner : Progress × Call} (h : s.Calls outer inner) :
    Prod.Lex (· < ·) (· < ·) (s.measure inner) (s.measure outer) := by
  cases h with
  | @within p p' j before after call hj hp =>
    have hmem : call ∈ Call.within j := by simp [hj]
    -- The calls before this one have put the trail back, so only the value counts.
    rw [measure, measure, hp.completes.1]
    exact .right _ (Call.extent_lt_of_mem_within hmem)
  | enter hd ht hs => exact .left _ _ (length_offTrail_enter_lt ht (resolve_eq_ok_iff.1 hs))

/-- No call has an endless sequence of calls nested in it. -/
theorem wellFounded_calls (s : Schema) : WellFounded fun inner outer => s.Calls outer inner := by
  have hlex : WellFounded (Prod.Lex (· < ·) (· < ·) : Nat × Nat → Nat × Nat → Prop) :=
    WellFounded.prod_lex Nat.lt_wfRel.wf Nat.lt_wfRel.wf
  exact Subrelation.wf (fun h => h.measure_lt) (InvImage.wf s.measure hlex)

/-- Nested calls find no more records off the trail than there were. -/
theorem length_offTrail_le {outer inner : Progress × Call} (h : ReflTransGen s.Calls outer inner) :
    (s.offTrail inner.1.trail).length ≤ (s.offTrail outer.1.trail).length := by
  induction h with
  | refl => exact le_rfl
  | tail _ hcall ih =>
    rcases Prod.lex_def.1 hcall.measure_lt with hlt | ⟨heq, _⟩
    · exact hlt.le.trans ih
    · exact heq.le.trans ih

/-- A visit within a visit finds fewer records off the trail. -/
theorem length_offTrail_lt_of_transGen {inner : Progress × Call}
    (h : TransGen s.Calls (p, .visit name) inner) :
    (s.offTrail inner.1.trail).length < (s.offTrail p.trail).length := by
  -- A visit makes one call at most, after it has entered its record.
  obtain ⟨c, hcall, hrest⟩ := TransGen.head'_iff.1 h
  cases hcall with
  | enter hd ht hs =>
    have hlt := length_offTrail_enter_lt ht (resolve_eq_ok_iff.1 hs)
    exact (length_offTrail_le hrest).trans_lt hlt

/-! ### What holds whenever a call starts -/

/-- What holds of the progress of a traversal. -/
structure Progress.Consistent (s : Schema) (p : Progress) : Prop where
  trail_nodup : p.trail.Nodup
  done_nodup : p.done.Nodup
  disjoint : p.trail.Disjoint p.done
  mem_names_of_mem_trail : ∀ name ∈ p.trail, name ∈ s.names
  mem_names_of_mem_done : ∀ name ∈ p.done, name ∈ s.names
  /-- Each record of the trail refers to the next. -/
  chain : p.trail.IsChain s.RefersTo
  /-- What a completed record refers to was completed before it. -/
  closed : ∀ a ∈ p.done, ∀ b, s.RefersTo a b → b ∈ p.done ∧ p.done.idxOf b < p.done.idxOf a

/-- The progress is consistent, and the trail leads to the targets that come next. -/
structure Progress.Leads (s : Schema) (p : Progress) (targets : List String) : Prop where
  leadsTo : s.LeadsTo p.trail targets
  chain : p.trail.IsChain s.RefersTo
  mem_names : ∀ name ∈ p.trail, name ∈ s.names
  disjoint : p.trail.Disjoint p.done
  ordered : s.Ordered p.done

namespace Progress.Leads

variable {targets : List String}

theorem consistent (h : p.Leads s targets) : p.Consistent s where
  trail_nodup := h.leadsTo.nodup
  done_nodup := h.ordered.nodup
  disjoint := h.disjoint
  mem_names_of_mem_trail := h.mem_names
  mem_names_of_mem_done _ hn := h.ordered.mem_names hn
  chain := h.chain
  closed _ ha _ hab := by
    have hlt := h.ordered.idxOf_lt ha hab
    exact ⟨mem_of_idxOf_lt hlt, hlt⟩

theorem start (s : Schema) : Progress.start.Leads s s.allReferences where
  leadsTo := leadsTo_allReferences s
  chain := .nil
  mem_names _ hn := absurd hn List.not_mem_nil
  disjoint _ hn := absurd hn List.not_mem_nil
  ordered := .nil

/-- Of calls one after the other, each starts from a trail that leads to its targets: the calls
before it have left the trail as it was, and completed nothing on it. -/
theorem within {before after : List Call} (h : p.Leads s (calls.flatMap Call.targets))
    (hcalls : calls = before ++ call :: after) (hp : s.ComesTo p before (.ok p')) :
    p'.Leads s call.targets := by
  obtain ⟨htrail, hcompletes⟩ := hp.completes
  obtain ⟨trail, done⟩ := p'
  obtain rfl : trail = p.trail := htrail
  have hsub : ∀ target ∈ call.targets, target ∈ calls.flatMap Call.targets := fun target ht =>
    List.mem_flatMap.2 ⟨call, by simp [hcalls], ht⟩
  refine ⟨⟨h.leadsTo.nodup, fun target ht => h.leadsTo.chain target (hsub target ht),
    fun target ht => h.leadsTo.referred target (hsub target ht)⟩, h.chain, h.mem_names,
    fun name ht hd => ?_, hcompletes.ordered h.ordered⟩
  -- What is done was done before, or it was completed while the trail was as it is.
  rcases hcompletes.mem_or_notMem hd with hd | hn
  · exact h.disjoint ht hd
  · exact hn ht

/-- From a record that is entered the trail leads on to its references. -/
theorem enter {definition : Json} (h : p.Leads s [name]) (hd : name ∉ p.done)
    (ht : name ∉ p.trail) (hs : s.get? name = some definition) :
    (p.enter name).Leads s definition.references := by
  rw [Progress.enter_of_notMem ht]
  refine ⟨h.leadsTo.enter ht hs, h.leadsTo.chain name List.mem_cons_self, fun other ho => ?_,
    List.disjoint_append_left.2 ⟨h.disjoint, List.singleton_disjoint.2 hd⟩, h.ordered⟩
  rcases List.mem_append.1 ho with ho | ho
  · exact h.mem_names other ho
  · rw [List.mem_singleton.1 ho]
    exact mem_names_of_get? hs

/-- **What a call keeps, all the calls within it keep.** -/
theorem of_calls (h : p.Leads s call.targets) (hcall : s.Calls (p, call) (p', call')) :
    p'.Leads s call'.targets := by
  cases hcall with
  | within hj hp =>
    rw [Call.targets, ← Call.targets_within] at h
    exact h.within hj hp
  | enter hd ht hs => exact h.enter hd ht (resolve_eq_ok_iff.1 hs)

end Progress.Leads

/-- Whenever a call starts, the trail leads to its targets. -/
theorem Reached.leads (h : s.Reached p call) : p.Leads s call.targets := by
  induction h with
  | start hs hp =>
    have hstart := Progress.Leads.start s
    rw [← targets_calls] at hstart
    exact hstart.within hs hp
  | next _ hcall ih => exact ih.of_calls hcall

/-- The trail has no more records than the schema. -/
theorem Progress.Consistent.length_trail_le (h : p.Consistent s) : p.trail.length ≤ s.size := by
  have hle := h.trail_nodup.length_le_of_subset h.mem_names_of_mem_trail
  rwa [names, Entries.keys, List.length_map] at hle

/-! ### The traversal of a schema -/

/-- **A traversal comes to an end on every schema**, with the outcome of the functions that hand the
trail down.  A call that is nested in another one leads down into the same value or enters a record
that is neither on the trail nor done.  So there are fewer records off the trail with every visit
within a visit, and never more on it than the schema has. -/
theorem traversal_terminates (s : Schema) :
    (∀ p call, s.ComesTo p [call] (call.outcome s p)) ∧
    s.ComesTo .start s.calls (s.referenced.map (Progress.mk [])) ∧
    (WellFounded fun inner outer => s.Calls outer inner) ∧
    (∀ outer inner, s.Calls outer inner → Descends outer inner ∨ s.Enters outer inner) ∧
    (∀ p name p' name', TransGen s.Calls (p, .visit name) (p', .visit name') →
      (s.offTrail p'.trail).length < (s.offTrail p.trail).length) ∧
    ∀ p call, s.Reached p call → p.trail.length ≤ s.size :=
  ⟨comesTo_outcome s, comesTo_referenced s, wellFounded_calls s, fun _ _ h => h.descends_or_enters,
    fun _ _ _ _ h => length_offTrail_lt_of_transGen h,
    fun _ _ h => h.leads.consistent.length_trail_le⟩

/-- **The progress is consistent whenever a call starts.**  A call that succeeds leaves the trail as
it found it, only appends to what is done, and has completed the record that it visits, or all that
the value refers to that it walks through. -/
theorem traversal_invariant (h : s.Reached p call) :
    p.Consistent s ∧ ∀ p', s.ComesTo p [call] (.ok p') →
      p'.trail = p.trail ∧ p.done <+: p'.done ∧
      (∀ j r, call = .walk j → Json.HasReference r j → Reference.target r ∈ p'.done) ∧
      ∀ name, call = .visit name → name ∈ p'.done := by
  refine ⟨h.leads.consistent, fun p' hp' => ?_⟩
  obtain ⟨htrail, hcompletes⟩ := hp'.completes
  have hdone : ∀ target ∈ call.targets, target ∈ p'.done := fun target ht =>
    hcompletes.mem_of_mem (List.mem_flatMap.2 ⟨call, List.mem_cons_self, ht⟩)
  refine ⟨htrail, hcompletes.isPrefix, ?_, ?_⟩
  · rintro j r rfl hr
    exact hdone _ (Json.mem_references_iff.2 ⟨r, hr, rfl⟩)
  · rintro name rfl
    exact hdone name List.mem_cons_self

/-- The shop refers to a cart, the cart to an offer, and the offer to an item and to a coupon. -/
def offers : Schema := ofList
  [("Shop", .obj [("$ref", .str "#/definitions/Cart")]),
   ("Cart", .obj [("$ref", .str "#/definitions/Offer")]),
   ("Offer", .obj [("item", .obj [("$ref", .str "#/definitions/Item")]),
      ("coupon", .obj [("$ref", .str "#/definitions/Coupon")])]),
   ("Item", .obj [("type", .str "string")]),
   ("Coupon", .obj [("type", .str "string")])]

/-- What the offer says of the coupon is walked through when the cart and the offer have been
entered and the item is complete. -/
theorem reached_offers : offers.Reached ⟨["Cart", "Offer"], ["Item"]⟩
    (.walk (.obj [("$ref", .str "#/definitions/Coupon")])) := by
  have hshop : offers.Reached .start (.walk (.obj [("$ref", .str "#/definitions/Cart")])) :=
    .start (List.nil_append _).symm (.nil offers .start)
  have hcart : offers.Reached .start (.visit "Cart") :=
    hshop.next (.within (List.nil_append [Call.visit "Cart"]).symm (.nil offers .start))
  have hinCart : offers.Reached ⟨["Cart"], []⟩
      (.walk (.obj [("$ref", .str "#/definitions/Offer")])) :=
    hcart.next (.enter (by decide) (by decide) rfl)
  have hoffer : offers.Reached ⟨["Cart"], []⟩ (.visit "Offer") :=
    hinCart.next (.within (List.nil_append [Call.visit "Offer"]).symm (.nil offers ⟨["Cart"], []⟩))
  have hinOffer : offers.Reached ⟨["Cart", "Offer"], []⟩
      (.walk (.obj [("item", .obj [("$ref", .str "#/definitions/Item")]),
        ("coupon", .obj [("$ref", .str "#/definitions/Coupon")])])) :=
    hoffer.next (.enter (by decide) (by decide) rfl)
  have hitem : offers.ComesTo ⟨["Cart", "Offer"], []⟩
      [.walk (.obj [("$ref", .str "#/definitions/Item")])] (.ok ⟨["Cart", "Offer"], ["Item"]⟩) :=
    comesTo_iff.2 (by with_unfolding_all rfl)
  exact hinOffer.next (.within rfl hitem)

/-- The coupon is complete after it, and the trail is what it was. -/
theorem offers_invariant :
    (⟨["Cart", "Offer"], ["Item"]⟩ : Progress).Consistent offers ∧
      "Coupon" ∈ ["Item", "Coupon"] ∧ ["Item"] <+: ["Item", "Coupon"] := by
  obtain ⟨hconsistent, hcall⟩ := traversal_invariant reached_offers
  have hcoupon : offers.ComesTo ⟨["Cart", "Offer"], ["Item"]⟩
      [.walk (.obj [("$ref", .str "#/definitions/Coupon")])]
      (.ok ⟨["Cart", "Offer"], ["Item", "Coupon"]⟩) :=
    comesTo_iff.2 (by with_unfolding_all rfl)
  obtain ⟨-, hprefix, hwalk, -⟩ := hcall _ hcoupon
  exact ⟨hconsistent, hwalk _ "#/definitions/Coupon" rfl (.here List.mem_cons_self), hprefix⟩

end SchemaCompiler.Schema
