import Mathlib.Data.List.DropRight
import Mathlib.Data.List.TakeWhile
import SchemaCompiler.Json.Reader
import SchemaCompiler.Proofs.Outcome

/-!
# Runs of a reader

What it says about the steps of a reader that it succeeds.  A loop over items that succeeds is a
`Loop`: a finite run of announced items, of which there are no more than characters at its start
(`items_eq_ok_iff`), so that no proof about a loop has to count.

A reader takes what it needs from the front of the text, and at most the next character has a say
in it.  `Extends` states this for a reader at a cursor: it would give the same with more text at the
end, provided that some text is left after it, or that its result is of a kind that it is sure of.
A loop that ends with a closing mark is sure of every result (`extends_items`).
-/

namespace SchemaCompiler

namespace Cursor

/-- The cursor after the blanks that stand next. -/
def trimmed (c : Cursor) : Cursor :=
  (c.span Reader.isBlank).2

/-- The cursor in a text with more at the end. -/
def extend (c : Cursor) (more : List Char) : Cursor :=
  ⟨c.rest ++ more, c.position⟩

variable {c : Cursor} {ch : Char}

@[simp] theorem rest_extend (c : Cursor) (more : List Char) :
    (c.extend more).rest = c.rest ++ more := rfl

@[simp] theorem trimmed_trimmed (c : Cursor) : c.trimmed.trimmed = c.trimmed := by
  have hdrop : c.trimmed.rest.dropWhile Reader.isBlank = c.trimmed.rest :=
    List.dropWhile_idempotent _ _
  have htake : c.trimmed.rest.takeWhile Reader.isBlank = [] := by
    have happend := List.takeWhile_append_dropWhile (p := Reader.isBlank) (l := c.trimmed.rest)
    rw [hdrop] at happend
    exact List.append_left_eq_self.1 happend
  unfold trimmed at hdrop htake ⊢
  conv_lhs => rw [span]
  simp only [hdrop, htake, List.foldl_nil]

theorem rest_eq_cons (h : c.rest.head? = some ch) : c.rest = ch :: c.next.rest := by
  obtain ⟨rest, position⟩ := c
  obtain ⟨rest', rfl⟩ := List.head?_eq_some_iff.1 h
  rfl

theorem rest_next_suffix (c : Cursor) : c.next.rest <:+ c.rest := by
  obtain ⟨rest, position⟩ := c
  cases rest with
  | nil => exact List.suffix_refl _
  | cons ch rest => exact List.suffix_cons ch rest

theorem rest_trimmed_suffix (c : Cursor) : c.trimmed.rest <:+ c.rest :=
  List.dropWhile_suffix _

theorem next_extend (h : c.rest ≠ []) (more : List Char) :
    (c.extend more).next = c.next.extend more := by
  obtain ⟨rest, position⟩ := c
  cases rest with
  | nil => exact absurd rfl h
  | cons ch rest => rfl

theorem head?_extend (h : c.rest ≠ []) (more : List Char) :
    (c.extend more).rest.head? = c.rest.head? := by
  rw [rest_extend, List.head?_append_of_ne_nil _ h]

end Cursor

namespace Reader

variable {α β κ σ τ : Type} {c c' : Cursor} {more : List Char}

/-! ### Steps -/

theorem bind_eq_ok_iff {r : Reader α} {f : α → Reader β} {b : β} :
    (r >>= f) c = .ok (b, c') ↔ ∃ a mid, r c = .ok (a, mid) ∧ f a mid = .ok (b, c') := by
  have hrun : (r >>= f) c = r c >>= fun p => f p.1 p.2 := rfl
  rw [hrun, Except.bind_eq_ok_iff, Prod.exists]

theorem pure_eq_ok_iff {a b : α} : (pure a : Reader α) c = .ok (b, c') ↔ a = b ∧ c = c' := by
  have hrun : (pure a : Reader α) c = .ok (a, c) := rfl
  rw [hrun, Except.ok.injEq, Prod.mk.injEq]

theorem andThen_pure_eq_ok_iff {r : Reader Unit} {a b : α} :
    (do r; return a : Reader α) c = .ok (b, c') ↔ b = a ∧ r c = .ok ((), c') := by
  rw [bind_eq_ok_iff]
  constructor
  · rintro ⟨_, mid, hr, h⟩
    obtain ⟨rfl, rfl⟩ := pure_eq_ok_iff.1 h
    exact ⟨rfl, hr⟩
  · rintro ⟨rfl, hr⟩
    exact ⟨(), c', hr, rfl⟩

@[simp] theorem pure_apply (a : α) : (pure a : Reader α) c = .ok (a, c) := rfl

@[simp] theorem peek?_bind (f : Option Char → Reader β) :
    (peek? >>= f) c = f c.rest.head? c := rfl

@[simp] theorem advance_bind (f : Unit → Reader β) : (advance >>= f) c = f () c.next := rfl

@[simp] theorem blanks_bind (f : Unit → Reader β) : (blanks >>= f) c = f () c.trimmed := rfl

@[simp] theorem advance_apply : advance c = .ok ((), c.next) := rfl

theorem under_eq_ok_iff {step : PathStep} {r : Reader α} {p : α × Cursor} :
    r.under step c = .ok p ↔ r c = .ok p :=
  Except.mapError_eq_ok_iff

@[simp] theorem failAfter_ne_ok {bytes : Nat} {fault : Fault} {p : α × Cursor} :
    failAfter bytes fault c ≠ .ok p := nofun

@[simp] theorem failHere_ne_ok {fault : Fault} {p : α × Cursor} : failHere fault c ≠ .ok p := nofun

@[simp] theorem failNext_ne_ok {fault : Fault} {p : α × Cursor} : failNext fault c ≠ .ok p := nofun

@[simp] theorem failBefore_ne_ok {bytes : Nat} {fault : Fault} {p : α × Cursor} :
    failBefore bytes fault c ≠ .ok p := nofun

/-! ### Loops -/

section Loop

variable (next : Bool → Reader (Option κ)) (item : σ → κ → Reader σ)

/-- A run of so many items, each announced and then read, up to the end that is announced. -/
inductive Loop : Nat → Bool → σ → Cursor → σ → Cursor → Prop
  | done {first : Bool} {s : σ} {c c' : Cursor} (h : next first c = .ok (none, c')) :
      Loop 0 first s c s c'
  | more {n : Nat} {first : Bool} {s s₁ s' : σ} {k : κ} {c c₁ c₂ c' : Cursor}
      (hnext : next first c = .ok (some k, c₁)) (hitem : item s k c₁ = .ok (s₁, c₂))
      (h : Loop n false s₁ c₂ s' c') : Loop (n + 1) first s c s' c'

end Loop

variable {next : Bool → Reader (Option κ)} {item : σ → κ → Reader σ} {first : Bool} {s s' : σ}
  {n : Nat}

theorem itemsWithin_eq (bound : List Char) (first : Bool) (s : σ) :
    itemsWithin next item bound first s = next first >>= fun k? =>
      match k?, bound with
      | none, _ => pure s
      | some _, [] => failHere .eofValue
      | some k, _ :: bound => item s k >>= itemsWithin next item bound false := by
  rw [itemsWithin]
  congr 1
  funext k?
  cases k? <;> cases bound <;> rfl

theorem loop_of_itemsWithin {bound : List Char}
    (h : itemsWithin next item bound first s c = .ok (s', c')) :
    ∃ n ≤ bound.length, Loop next item n first s c s' c' := by
  induction bound generalizing first s c with
  | nil =>
    rw [itemsWithin_eq, bind_eq_ok_iff] at h
    obtain ⟨k? | k, mid, hnext, h⟩ := h
    · obtain ⟨rfl, rfl⟩ := pure_eq_ok_iff.1 h
      exact ⟨0, Nat.zero_le _, .done hnext⟩
    · cases h
  | cons ch bound ih =>
    rw [itemsWithin_eq, bind_eq_ok_iff] at h
    obtain ⟨k? | k, mid, hnext, h⟩ := h
    · obtain ⟨rfl, rfl⟩ := pure_eq_ok_iff.1 h
      exact ⟨0, Nat.zero_le _, .done hnext⟩
    · obtain ⟨s₁, c₂, hitem, h⟩ := bind_eq_ok_iff.1 h
      obtain ⟨n, hn, hloop⟩ := ih h
      exact ⟨n + 1, Nat.succ_le_succ hn, .more hnext hitem hloop⟩

theorem Loop.itemsWithin_eq_ok (h : Loop next item n first s c s' c') {bound : List Char}
    (hn : n ≤ bound.length) : itemsWithin next item bound first s c = .ok (s', c') := by
  induction h generalizing bound with
  | done hnext =>
    rw [itemsWithin_eq, bind_eq_ok_iff]
    exact ⟨none, _, hnext, rfl⟩
  | more hnext hitem _ ih =>
    cases bound with
    | nil => exact absurd hn (Nat.not_succ_le_zero _)
    | cons ch bound =>
      rw [itemsWithin_eq, bind_eq_ok_iff]
      exact ⟨_, _, hnext, bind_eq_ok_iff.2 ⟨_, _, hitem, ih (Nat.le_of_succ_le_succ hn)⟩⟩

/-- A loop over items succeeds if it is a run of no more items than there are characters. -/
theorem items_eq_ok_iff : items next item s c = .ok (s', c') ↔
    ∃ n ≤ c.rest.length, Loop next item n true s c s' c' := by
  constructor
  · exact loop_of_itemsWithin
  · rintro ⟨n, hn, h⟩
    exact h.itemsWithin_eq_ok hn

/-- A run is followed by any run that can follow each item, as long as `R` relates the two. -/
theorem Loop.simulates {κ' : Type} {next' : Bool → Reader (Option κ')}
    {item' : τ → κ' → Reader τ} {R : σ → τ → Cursor → Prop}
    (hdone : ∀ first c c', next first c = .ok (none, c') → next' first c = .ok (none, c'))
    (hmore : ∀ first s t k c c₁ s₁ c₂, R s t c → next first c = .ok (some k, c₁) →
      item s k c₁ = .ok (s₁, c₂) → ∃ k' c₁' t₁, next' first c = .ok (some k', c₁') ∧
        item' t k' c₁' = .ok (t₁, c₂) ∧ R s₁ t₁ c₂)
    (h : Loop next item n first s c s' c') {t : τ} (hR : R s t c) :
    ∃ t', Loop next' item' n first t c t' c' := by
  induction h generalizing t with
  | done hnext => exact ⟨t, .done (hdone _ _ _ hnext)⟩
  | more hnext hitem _ ih =>
    obtain ⟨k', c₁', t₁, hnext', hitem', hR'⟩ := hmore _ _ _ _ _ _ _ _ hR hnext hitem
    obtain ⟨t', hloop⟩ := ih hR'
    exact ⟨t', .more hnext' hitem' hloop⟩

/-! ### More text at the end -/

/-- At this cursor the reader takes its result from the front of the text; it would do so with more
text at the end, unless it has come to the end and `Sure` does not hold of the result. -/
def Extends (Sure : α → Prop) (r : Reader α) (c : Cursor) : Prop :=
  ∀ a c', r c = .ok (a, c') → c'.rest <:+ c.rest ∧
    (Sure a ∨ c'.rest ≠ [] → c.rest ≠ [] ∧ ∀ more, r (c.extend more) = .ok (a, c'.extend more))

/-- For a reader that may depend on what follows. -/
abbrev Unsure : α → Prop := fun _ => False

/-- For a reader that knows the end of what it reads. -/
abbrev Certain : α → Prop := fun _ => True

variable {Sure Sure' : α → Prop} {r : Reader α}

theorem Extends.suffix (h : Extends Sure r c) {a : α} (hr : r c = .ok (a, c')) :
    c'.rest <:+ c.rest :=
  (h a c' hr).1

theorem Extends.mono (h : Extends Sure r c) (hsure : ∀ a, Sure' a → Sure a) :
    Extends Sure' r c := by
  intro a c' hr
  obtain ⟨hsuffix, hextend⟩ := h a c' hr
  exact ⟨hsuffix, fun hor => hextend (hor.imp_left (hsure a))⟩

theorem Extends.unsure (h : Extends Sure r c) : Extends Unsure r c :=
  h.mono fun _ => False.elim

/-- A reader that fails extends whatever it is said to be sure of. -/
theorem extends_of_ne_ok (h : ∀ p, r c ≠ .ok p) : Extends Sure r c :=
  fun a c' hr => absurd hr (h (a, c'))

@[simp] theorem extends_failAfter (bytes : Nat) (fault : Fault) :
    Extends Sure (failAfter bytes fault) c :=
  extends_of_ne_ok fun _ => failAfter_ne_ok

@[simp] theorem extends_failHere (fault : Fault) : Extends Sure (failHere fault) c :=
  extends_of_ne_ok fun _ => failHere_ne_ok

@[simp] theorem extends_failNext (fault : Fault) : Extends Sure (failNext fault) c :=
  extends_of_ne_ok fun _ => failNext_ne_ok

@[simp] theorem extends_failBefore (bytes : Nat) (fault : Fault) :
    Extends Sure (failBefore bytes fault) c :=
  extends_of_ne_ok fun _ => failBefore_ne_ok

/-- A reader that takes nothing is not sure of anything. -/
theorem extends_pure {a : α} (h : ¬ Sure a) : Extends Sure (pure a) c := by
  intro b c' hr
  obtain ⟨rfl, rfl⟩ := pure_eq_ok_iff.1 hr
  refine ⟨List.suffix_refl _, fun hor => ⟨hor.resolve_left h, fun more => rfl⟩⟩

/-- A mark that has been recognised is taken whatever follows it. -/
theorem extends_advance {ch : Char} (h : c.rest.head? = some ch) : Extends Certain advance c := by
  intro a c' hr
  obtain ⟨rfl, rfl⟩ := Prod.mk.inj (Except.ok.inj hr)
  have hne : c.rest ≠ [] := by
    intro hnil
    rw [hnil] at h
    cases h
  refine ⟨c.rest_next_suffix, fun _ => ⟨hne, fun more => ?_⟩⟩
  rw [advance_apply, Cursor.next_extend hne]

theorem extends_takeWhile (keep : Char → Bool) : Extends Unsure (takeWhile keep) c := by
  intro a c' hr
  obtain ⟨rfl, rfl⟩ := Prod.mk.inj (Except.ok.inj hr)
  refine ⟨List.dropWhile_suffix _, fun hor => ?_⟩
  have hrest : c.rest.dropWhile keep ≠ [] := hor.resolve_left id
  have hsplit := List.takeWhile_append_dropWhile (p := keep) (l := c.rest)
  have hne : c.rest ≠ [] := by
    intro hnil
    rw [hnil] at hrest
    exact hrest rfl
  -- The run ends before a character that stands in the text already.
  obtain ⟨ch, rest, hdrop⟩ := List.exists_cons_of_ne_nil hrest
  have hstop : keep ch = false := by
    have hhead := List.head?_dropWhile_not keep c.rest
    rw [hdrop] at hhead
    simpa using hhead
  refine ⟨hne, fun more => ?_⟩
  have htake : (c.rest ++ more).takeWhile keep = c.rest.takeWhile keep := by
    conv_lhs => rw [← hsplit, hdrop, List.append_assoc, List.cons_append]
    rw [List.takeWhile_append_of_pos fun x hx => List.mem_takeWhile_imp hx,
      List.takeWhile_cons_of_neg (by simp [hstop]), List.append_nil]
  have hdrop' : (c.rest ++ more).dropWhile keep = c.rest.dropWhile keep ++ more := by
    conv_lhs => rw [← hsplit, hdrop, List.append_assoc, List.cons_append]
    rw [List.dropWhile_append_of_pos fun x hx => List.mem_takeWhile_imp hx,
      List.dropWhile_cons_of_neg (by simp [hstop]), hdrop, List.cons_append]
  show Except.ok ((c.extend more).span keep) = _
  simp only [Cursor.span, Cursor.rest_extend, htake, hdrop']
  rfl

/-- One reader after the other: if the second is sure of its result, text is left for it. -/
theorem Extends.bind {f : α → Reader β} {Sure : β → Prop} (hr : Extends Unsure r c)
    (hf : ∀ a mid, r c = .ok (a, mid) → Extends Sure (f a) mid) : Extends Sure (r >>= f) c := by
  intro b c' h
  obtain ⟨a, mid, hra, hfa⟩ := bind_eq_ok_iff.1 h
  obtain ⟨hsuffix, hextend⟩ := hr a mid hra
  obtain ⟨hsuffix', hextend'⟩ := hf a mid hra b c' hfa
  refine ⟨hsuffix'.trans hsuffix, fun hor => ?_⟩
  obtain ⟨hmid, hmore'⟩ := hextend' hor
  obtain ⟨hne, hmore⟩ := hextend (.inr hmid)
  exact ⟨hne, fun more => bind_eq_ok_iff.2 ⟨a, _, hmore more, hmore' more⟩⟩

/-- What is made of a certain result is certain. -/
theorem Extends.finish {g : α → β} {Sure : β → Prop} (hr : Extends Certain r c) :
    Extends Sure (r >>= fun a => pure (g a)) c := by
  intro b c' h
  obtain ⟨a, mid, hra, hfa⟩ := bind_eq_ok_iff.1 h
  obtain ⟨rfl, rfl⟩ := pure_eq_ok_iff.1 hfa
  obtain ⟨hsuffix, hextend⟩ := hr a mid hra
  obtain ⟨hne, hmore⟩ := hextend (.inl trivial)
  exact ⟨hsuffix, fun _ => ⟨hne, fun more => bind_eq_ok_iff.2 ⟨a, _, hmore more, rfl⟩⟩⟩

/-- An end that is announced is certain, and so is what is made of it. -/
theorem Extends.announced {next : Reader (Option κ)} {f : Option κ → Reader β} {b : β}
    {Sure : β → Prop} (hnext : Extends (· = none) next c) (hend : f none = pure b)
    (hf : ∀ k mid, next c = .ok (some k, mid) → Extends Sure (f (some k)) mid) :
    Extends Sure (next >>= f) c := by
  intro b' c' h
  obtain ⟨_ | k, mid, hk, hfk⟩ := bind_eq_ok_iff.1 h
  · rw [hend] at hfk
    obtain ⟨rfl, rfl⟩ := pure_eq_ok_iff.1 hfk
    obtain ⟨hsuffix, hextend⟩ := hnext none mid hk
    obtain ⟨hne, hmore⟩ := hextend (.inl rfl)
    refine ⟨hsuffix, fun _ => ⟨hne, fun more => ?_⟩⟩
    rw [bind_eq_ok_iff]
    exact ⟨none, _, hmore more, by rw [hend]; rfl⟩
  · exact (hnext.unsure.bind fun k? mid' hk' => by
      obtain ⟨rfl, rfl⟩ := Prod.mk.inj (Except.ok.inj (hk.symm.trans hk'))
      exact hf k mid hk) b' c' h

/-- To look at the next character is to depend on it. -/
theorem Extends.peek {f : Option Char → Reader β} {Sure : β → Prop}
    (hf : ∀ o, c.rest.head? = o → Extends Sure (f o) c) : Extends Sure (peek? >>= f) c := by
  intro b c' h
  rw [peek?_bind] at h
  obtain ⟨hsuffix, hextend⟩ := hf _ rfl b c' h
  refine ⟨hsuffix, fun hor => ?_⟩
  obtain ⟨hne, hmore⟩ := hextend hor
  refine ⟨hne, fun more => ?_⟩
  rw [peek?_bind, Cursor.head?_extend hne]
  exact hmore more

theorem Extends.under (h : Extends Sure r c) (step : PathStep) : Extends Sure (r.under step) c := by
  intro a c' hr
  obtain ⟨hsuffix, hextend⟩ := h a c' (under_eq_ok_iff.1 hr)
  refine ⟨hsuffix, fun hor => ?_⟩
  obtain ⟨hne, hmore⟩ := hextend hor
  exact ⟨hne, fun more => under_eq_ok_iff.2 (hmore more)⟩

theorem extends_blanks : Extends Unsure blanks c :=
  (extends_takeWhile isBlank).bind fun _ _ _ => extends_pure id

theorem Loop.extends (hnext : ∀ first c, Extends (· = none) (next first) c)
    (hitem : ∀ s k c, Extends Unsure (item s k) c) (h : Loop next item n first s c s' c') :
    c'.rest <:+ c.rest ∧ c.rest ≠ [] ∧
      ∀ more, Loop next item n first s (c.extend more) s' (c'.extend more) := by
  induction h with
  | done h =>
    obtain ⟨hsuffix, hextend⟩ := hnext _ _ _ _ h
    obtain ⟨hne, hmore⟩ := hextend (.inl rfl)
    exact ⟨hsuffix, hne, fun more => .done (hmore more)⟩
  | more hn hi _ ih =>
    obtain ⟨hsuffix, hne, hmore⟩ := ih
    obtain ⟨hsuffix', hextend'⟩ := hitem _ _ _ _ _ hi
    obtain ⟨hne', hmore'⟩ := hextend' (.inr hne)
    obtain ⟨hsuffix'', hextend''⟩ := hnext _ _ _ _ hn
    obtain ⟨hne'', hmore''⟩ := hextend'' (.inr hne')
    refine ⟨(hsuffix.trans hsuffix').trans hsuffix'', hne'', fun more => ?_⟩
    exact .more (hmore'' more) (hmore' more) (hmore more)

/-- **A loop that is sure of its end is sure of its result.** -/
theorem extends_items (hnext : ∀ first c, Extends (· = none) (next first) c)
    (hitem : ∀ s k c, Extends Unsure (item s k) c) (s : σ) :
    Extends Certain (items next item s) c := by
  intro s' c' h
  obtain ⟨n, hn, hloop⟩ := items_eq_ok_iff.1 h
  obtain ⟨hsuffix, hne, hmore⟩ := hloop.extends hnext hitem
  refine ⟨hsuffix, fun _ => ⟨hne, fun more => items_eq_ok_iff.2 ⟨n, ?_, hmore more⟩⟩⟩
  rw [Cursor.rest_extend, List.length_append]
  omega

end Reader

end SchemaCompiler
