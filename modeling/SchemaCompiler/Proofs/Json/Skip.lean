import SchemaCompiler.Proofs.Json.Grammar

/-!
# Passing over what can be read

`Reader.skip` only checks the form of a value.  It accepts every value that another reader accepts,
and comes to the same place behind it: `skip_of_value` for values, `skip_of_document` for documents.
So all that is known of values that are passed over holds of values that are read.

The readers do not go in step.  A pair of surrogates is one character for `string` and two for
`skipString`; a comma and the blanks behind it are one mark for `nextElement` and the beginning of
the value for `skipToElement`.  Only the cursors after a whole item are the same.
-/

namespace SchemaCompiler

namespace Grammar

theorem IsNumber.ne_nil {cs : List Char} (h : IsNumber cs) : cs ≠ [] := by
  obtain ⟨_, hwhole, _, _⟩ := h
  have hne : ∀ {whole}, IsWhole whole → whole ≠ [] := by
    rintro _ (_ | _) <;> exact List.cons_ne_nil _ _
  simp [hne hwhole]

theorem IsValue.ne_nil {cs : List Char} (h : IsValue cs) : cs ≠ [] := by
  cases h with
  | null => decide
  | true => decide
  | false => decide
  | number h => exact h.ne_nil
  | string h =>
    obtain ⟨_⟩ := h
    exact List.cons_ne_nil _ _
  | emptyArray _ => exact List.cons_ne_nil _ _
  | array _ _ => exact List.cons_ne_nil _ _
  | emptyObject _ => exact List.cons_ne_nil _ _
  | object _ _ => exact List.cons_ne_nil _ _

theorem IsStringChar.ne_nil {cs : List Char} (h : IsStringChar cs) : cs ≠ [] := by
  cases h <;> exact List.cons_ne_nil _ _

end Grammar

namespace Reader

open Grammar

variable {c c' : Cursor} {σ : Type}

/-! ### Counting items -/

theorem Takes.length_lt {P : List Char → Prop} (h : Takes P c c') (hP : ∀ {cs}, P cs → cs ≠ []) :
    c'.rest.length < c.rest.length := by
  obtain ⟨taken, hrest, htaken⟩ := h
  have hpos : 0 < taken.length := List.length_pos_of_ne_nil (hP htaken)
  rw [hrest, List.length_append]
  omega

theorem length_lt_of_skipWithin {bound : List Char} (h : skipWithin bound c = .ok ((), c')) :
    c'.rest.length < c.rest.length := by
  refine (takes_skipWithin h).length_lt ?_
  rintro cs ⟨blanks, value, rfl, _, hvalue⟩
  simp [hvalue.ne_nil]

/-- Items that take at least one character each are no more than characters. -/
theorem Loop.count_le {κ : Type} {next : Bool → Reader (Option κ)} {item : σ → κ → Reader σ}
    {n : Nat} {first : Bool} {s s' : σ} (h : Loop next item n first s c s' c')
    (hmore : ∀ first s k c c₁ s₁ c₂, next first c = .ok (some k, c₁) →
      item s k c₁ = .ok (s₁, c₂) → c₂.rest.length < c.rest.length) :
    n ≤ c.rest.length := by
  induction h with
  | done _ => exact Nat.zero_le _
  | more hnext hitem _ ih =>
    have hlt := hmore _ _ _ _ _ _ _ hnext hitem
    omega

/-- A run of values that are passed over is a loop over them. -/
theorem Loop.items_skipWithin {next : Bool → Reader (Option Unit)} {n : Nat} {bound : List Char}
    (hnext : ∀ first c, Extends (· = none) (next first) c)
    (h : Loop next (fun () () => skipWithin bound) n true () c () c') :
    items next (fun () () => skipWithin bound) () c = .ok ((), c') := by
  refine items_eq_ok_iff.2 ⟨n, h.count_le ?_, h⟩
  intro first _ k c c₁ _ c₂ hk hitem
  have hle := ((hnext first c).suffix hk).length_le
  have hlt := length_lt_of_skipWithin hitem
  omega

/-! ### Strings -/

theorem codeEscape_eq_ok {ch : Char} (h : codeEscape c = .ok (ch, c')) :
    (∃ n, hexCode c = .ok (n, c')) ∨
      ∃ n mid m, hexCode c = .ok (n, mid) ∧ mid.rest.head? = some '\\' ∧
        mid.next.rest.head? = some 'u' ∧ hexCode mid.next.next = .ok (m, c') := by
  have hmark : ∀ {mark c c'} {u : Unit}, pairMark mark c = .ok (u, c') →
      c.rest.head? = some mark ∧ c' = c.next := by
    intro mark c c' u h
    unfold pairMark at h
    rw [peek?_bind] at h
    generalize c.rest.head? = o at h ⊢
    split at h
    · cases h
    · split at h
      · next heq =>
        obtain ⟨_, rfl⟩ := Prod.mk.inj (Except.ok.inj h)
        exact ⟨congrArg some heq, rfl⟩
      · cases h
  unfold codeEscape at h
  obtain ⟨n, mid, hcode, h⟩ := bind_eq_ok_iff.1 h
  split at h
  · cases h
  · split at h
    · obtain ⟨_, _, hfirst, h⟩ := bind_eq_ok_iff.1 h
      obtain ⟨hbackslash, rfl⟩ := hmark hfirst
      obtain ⟨_, _, hsecond, h⟩ := bind_eq_ok_iff.1 h
      obtain ⟨hu, rfl⟩ := hmark hsecond
      obtain ⟨m, mid', hcode', h⟩ := bind_eq_ok_iff.1 h
      split at h
      · obtain ⟨_, rfl⟩ := pure_eq_ok_iff.1 h
        exact .inr ⟨n, mid, m, hcode, hbackslash, hu, hcode'⟩
      · cases h
    · obtain ⟨_, rfl⟩ := pure_eq_ok_iff.1 h
      exact .inl ⟨n, hcode⟩

theorem skipStringChar_code {n : Nat} (hbackslash : c.rest.head? = some '\\')
    (hu : c.next.rest.head? = some 'u') (h : hexCode c.next.next = .ok (n, c')) :
    skipStringChar c = .ok (some (), c') := by
  unfold skipStringChar
  rw [peek?_bind, hbackslash]
  show (advance >>= fun _ => _) c = _
  rw [advance_bind, peek?_bind, hu]
  show (advance >>= fun _ => _) c.next = _
  rw [advance_bind, bind_eq_ok_iff]
  exact ⟨n, c', h, rfl⟩

theorem skipStringChar_escape {e : Char} (hbackslash : c.rest.head? = some '\\')
    (he : c.next.rest.head? = some e) (hu : e ≠ 'u') (hsimple : (simpleEscape? e).isSome = true) :
    skipStringChar c = .ok (some (), c.next.next) := by
  unfold skipStringChar
  rw [peek?_bind, hbackslash]
  show (advance >>= fun _ => _) c = _
  rw [advance_bind, peek?_bind, he]
  simp [hsimple]

theorem skipStringChar_plain {ch : Char} (hch : c.rest.head? = some ch) (hquote : ch ≠ '"')
    (hbackslash : ch ≠ '\\') (hcontrol : ¬ ch.toNat < 0x20) :
    skipStringChar c = .ok (some (), c.next) := by
  unfold skipStringChar
  rw [peek?_bind, hch]
  simp [hcontrol]

theorem skipStringChar_of_none (h : stringChar c = .ok (none, c')) :
    skipStringChar c = .ok (none, c') := by
  unfold stringChar at h
  rw [peek?_bind] at h
  unfold skipStringChar
  rw [peek?_bind]
  generalize c.rest.head? = o at h ⊢
  split at h
  · cases h
  · obtain ⟨_, rfl⟩ := pure_eq_ok_iff.1 h
    rfl
  · obtain ⟨_, _, _, h⟩ := bind_eq_ok_iff.1 h
    obtain ⟨_, _, _, h⟩ := bind_eq_ok_iff.1 h
    cases (pure_eq_ok_iff.1 h).1
  · rw [advance_bind] at h
    split at h
    · cases h
    · cases (pure_eq_ok_iff.1 h).1

/-- A character is passed over in one step, or in two if it is written as two surrogates. -/
theorem skipStringChar_of_some {ch : Char} (h : stringChar c = .ok (some ch, c')) :
    skipStringChar c = .ok (some (), c') ∨
      ∃ mid, skipStringChar c = .ok (some (), mid) ∧ skipStringChar mid = .ok (some (), c') := by
  unfold stringChar at h
  rw [peek?_bind] at h
  generalize ho : c.rest.head? = o at h
  split at h
  · cases h
  · cases (pure_eq_ok_iff.1 h).1
  · rw [advance_bind] at h
    obtain ⟨e, mid, hescape, h⟩ := bind_eq_ok_iff.1 h
    obtain ⟨_, rfl⟩ := pure_eq_ok_iff.1 h
    unfold escape at hescape
    rw [peek?_bind] at hescape
    generalize ho' : c.next.rest.head? = o' at hescape
    split at hescape
    · cases hescape
    · rw [advance_bind] at hescape
      obtain ⟨n, hcode⟩ | ⟨n, mid', m, hcode, hbackslash, hu, hcode'⟩ := codeEscape_eq_ok hescape
      · exact .inl (skipStringChar_code ho ho' hcode)
      · have hsecond := skipStringChar_code hbackslash hu hcode'
        exact .inr ⟨mid', skipStringChar_code ho ho' hcode, hsecond⟩
    · next e' hu =>
      cases hsimple : simpleEscape? e' with
      | none =>
        rw [hsimple] at hescape
        cases hescape
      | some e =>
        rw [hsimple] at hescape
        obtain ⟨_, rfl⟩ := pure_eq_ok_iff.1 hescape
        exact .inl (skipStringChar_escape ho ho' hu (by rw [hsimple]; rfl))
  · next ch' hquote hbackslash =>
    rw [advance_bind] at h
    split at h
    · cases h
    · next hcontrol =>
      obtain ⟨_, rfl⟩ := pure_eq_ok_iff.1 h
      exact .inl (skipStringChar_plain ho hquote hbackslash hcontrol)

theorem skipString_loop {first : Bool} {n : Nat} {acc acc' : List Char}
    (h : Loop (fun _ => stringChar) (fun acc ch => return ch :: acc) n first acc c acc' c') :
    ∃ m, Loop (fun _ => skipStringChar) (fun () () => return ()) m first () c () c' := by
  induction h with
  | done h => exact ⟨0, .done (skipStringChar_of_none h)⟩
  | more hnext hitem _ ih =>
    obtain ⟨_, rfl⟩ := pure_eq_ok_iff.1 hitem
    obtain ⟨m, hloop⟩ := ih
    -- The two runs differ in length by the number of surrogate pairs.
    obtain hskip | ⟨mid, hskip, hskip'⟩ := skipStringChar_of_some hnext
    · exact ⟨m + 1, .more hskip rfl hloop⟩
    · exact ⟨m + 2, .more hskip rfl (.more hskip' rfl hloop)⟩

theorem skipString_of_string {s : String} (h : string c = .ok (s, c')) :
    skipString c = .ok ((), c') := by
  obtain ⟨reversed, mid, hitems, h⟩ := bind_eq_ok_iff.1 h
  obtain ⟨_, rfl⟩ := pure_eq_ok_iff.1 h
  obtain ⟨n, _, hloop⟩ := items_eq_ok_iff.1 hitems
  obtain ⟨m, hskip⟩ := skipString_loop hloop
  -- `n` does not bound `m`, but the characters that are taken do.
  refine items_eq_ok_iff.2 ⟨m, hskip.count_le ?_, hskip⟩
  intro _ _ _ c c₁ _ c₂ hnext hitem
  obtain ⟨_, rfl⟩ := pure_eq_ok_iff.1 hitem
  exact (takes_skipStringChar_some hnext).length_lt IsStringChar.ne_nil

/-! ### Scalars -/

/-- Whatever the second reader gives, the first one gives. -/
def Covers {α : Type} (r' r : Reader α) : Prop :=
  ∀ c p, r c = .ok p → r' c = .ok p

section Covers

variable {α β : Type} {r r' : Reader α} {f f' : α → Reader β}

theorem Covers.refl (r : Reader α) : Covers r r :=
  fun _ _ => id

theorem covers_failHere (fault : Fault) : Covers r' (failHere fault : Reader α) :=
  fun _ _ h => absurd h failHere_ne_ok

theorem Covers.bind (hr : Covers r' r) (hf : ∀ a, Covers (f' a) (f a)) :
    Covers (r' >>= f') (r >>= f) := by
  rintro c ⟨b, c'⟩ h
  obtain ⟨a, mid, ha, hb⟩ := bind_eq_ok_iff.1 h
  exact bind_eq_ok_iff.2 ⟨a, mid, hr c _ ha, hf a mid _ hb⟩

/-- Only what is done after the same first step has to be compared. -/
theorem Covers.after (hf : ∀ a, Covers (f' a) (f a)) : Covers (r >>= f') (r >>= f) :=
  (Covers.refl r).bind hf

end Covers

/-- The fault that is named for a number that is cut off has no say in which numbers are read. -/
theorem covers_numeral (cutOff cutOff' : Fault) : Covers (numeral cutOff') (numeral cutOff) := by
  have hwhole : Covers (wholeDigits cutOff') (wholeDigits cutOff) := by
    unfold wholeDigits
    refine .after fun o => ?_
    split
    · exact covers_failHere _
    · exact .refl _
    · exact .refl _
  have hfraction : Covers (fractionDigits cutOff') (fractionDigits cutOff) := by
    unfold fractionDigits
    refine .after fun o => ?_
    split
    · refine .after fun _ => .after fun ds => ?_
      split
      · exact .refl _
      · refine .after fun o' => ?_
        split
        · exact covers_failHere _
        · exact .refl _
    · exact .refl _
  have hexponent : Covers (exponentPart cutOff') (exponentPart cutOff) := by
    unfold exponentPart
    refine .after fun o => ?_
    split
    · refine .after fun _ => .after fun negative => .after fun o' => ?_
      split
      · exact covers_failHere _
      · exact .refl _
    · refine .after fun _ => .after fun negative => .after fun o' => ?_
      split
      · exact covers_failHere _
      · exact .refl _
    · exact .refl _
  have hparts : ∀ negative : Bool, Covers
      (wholeDigits cutOff' >>= fun whole => fractionDigits cutOff' >>= fun fraction =>
        exponentPart cutOff' >>= fun exponent =>
          return (⟨negative, whole, fraction, exponent⟩ : Numeral))
      (wholeDigits cutOff >>= fun whole => fractionDigits cutOff >>= fun fraction =>
        exponentPart cutOff >>= fun exponent =>
          return (⟨negative, whole, fraction, exponent⟩ : Numeral)) :=
    fun _ => hwhole.bind fun _ => hfraction.bind fun _ => hexponent.bind fun _ => .refl _
  unfold numeral
  refine .after fun o => ?_
  split
  · exact .after fun _ => .after hparts
  · exact .after hparts

/-- A number is read by its digits before it is evaluated. -/
theorem numeral_of_number {x : Number} (h : number c = .ok (x, c')) :
    ∃ n, numeral .eofValue c = .ok (n, c') := by
  obtain ⟨n, mid, hnumeral, h⟩ := bind_eq_ok_iff.1 h
  cases hvalue : n.value with
  | error back =>
    rw [hvalue] at h
    cases h
  | ok x =>
    rw [hvalue] at h
    obtain ⟨_, rfl⟩ := pure_eq_ok_iff.1 h
    exact ⟨n, hnumeral⟩

theorem skipScalar_of_scalar {v : Json} (h : scalar c = .ok (v, c')) :
    skipScalar c = .ok ((), c') := by
  unfold scalar at h
  rw [peek?_bind] at h
  unfold skipScalar
  rw [peek?_bind]
  generalize c.rest.head? = o at h ⊢
  split at h
  · exact (andThen_pure_eq_ok_iff.1 h).2
  · exact (andThen_pure_eq_ok_iff.1 h).2
  · exact (andThen_pure_eq_ok_iff.1 h).2
  · rw [advance_bind] at h
    obtain ⟨s, mid, hstring, h⟩ := bind_eq_ok_iff.1 h
    obtain ⟨_, rfl⟩ := pure_eq_ok_iff.1 h
    exact skipString_of_string hstring
  · next ch _ _ _ _ =>
    split at h
    · next hstart =>
      obtain ⟨x, mid, hnumber, h⟩ := bind_eq_ok_iff.1 h
      obtain ⟨_, rfl⟩ := pure_eq_ok_iff.1 h
      obtain ⟨n, hnumeral⟩ := numeral_of_number hnumber
      simp only [hstart, if_true]
      exact bind_eq_ok_iff.2 ⟨n, mid, covers_numeral _ _ c _ hnumeral, rfl⟩
    · cases h
  · cases h

/-! ### What announces an item -/

theorem nextElement_eq_ok {first : Bool} {o : Option Unit} (h : nextElement first c = .ok (o, c')) :
    (o = none ∧ c.trimmed.rest.head? = some ']' ∧ c' = c.trimmed.next) ∨
      (o = some () ∧ first = true ∧ (∃ ch ≠ ']', c.trimmed.rest.head? = some ch) ∧
        c' = c.trimmed) ∨
      (o = some () ∧ first = false ∧ c.trimmed.rest.head? = some ',' ∧
        c' = c.trimmed.next.trimmed) := by
  unfold nextElement at h
  rw [blanks_bind, peek?_bind] at h
  generalize c.trimmed.rest.head? = o at h ⊢
  split at h
  · cases h
  · obtain ⟨rfl, rfl⟩ := pure_eq_ok_iff.1 h
    exact .inl ⟨rfl, rfl, rfl⟩
  · next ch hclose =>
    split at h
    · next hfirst =>
      obtain ⟨rfl, rfl⟩ := pure_eq_ok_iff.1 h
      exact .inr (.inl ⟨rfl, hfirst, ⟨ch, hclose, rfl⟩, rfl⟩)
    · next hfirst =>
      split at h
      · cases h
      · next hcomma =>
        rw [advance_bind, blanks_bind, peek?_bind] at h
        generalize c.trimmed.next.trimmed.rest.head? = o' at h
        split at h
        · cases h
        · cases h
        · obtain ⟨rfl, rfl⟩ := pure_eq_ok_iff.1 h
          rw [not_not.1 hcomma]
          exact .inr (.inr ⟨rfl, Bool.eq_false_iff.2 hfirst, rfl, rfl⟩)

theorem skipToElement_of_none {first : Bool} (h : nextElement first c = .ok (none, c')) :
    skipToElement first c = .ok (none, c') := by
  obtain hend | ⟨ho, _⟩ | ⟨ho, _⟩ := nextElement_eq_ok h
  · exact skipToElement_eq_ok_iff.2 (.inl hend)
  · cases ho
  · cases ho

/-- The blanks before an element are left to the element. -/
theorem skipToElement_of_some {first : Bool} (h : nextElement first c = .ok (some (), c')) :
    ∃ mid, skipToElement first c = .ok (some (), mid) ∧ mid.trimmed = c' := by
  obtain ⟨ho, _⟩ | ⟨_, hfirst, hch, rfl⟩ | ⟨_, hfirst, hcomma, rfl⟩ := nextElement_eq_ok h
  · cases ho
  · refine ⟨c.trimmed, skipToElement_eq_ok_iff.2 ?_, c.trimmed_trimmed⟩
    exact .inr (.inl ⟨rfl, hfirst, hch, rfl⟩)
  · refine ⟨c.trimmed.next, skipToElement_eq_ok_iff.2 ?_, rfl⟩
    exact .inr (.inr ⟨rfl, hfirst, hcomma, rfl⟩)

theorem nextKey_eq_ok {first : Bool} {o : Option String} (h : nextKey first c = .ok (o, c')) :
    (o = none ∧ c.trimmed.rest.head? = some '\x7d' ∧ c' = c.trimmed.next) ∨
      (∃ k, o = some k ∧ first = true ∧ key c.trimmed = .ok (k, c')) ∨
      (∃ k, o = some k ∧ first = false ∧ c.trimmed.rest.head? = some ',' ∧
        key c.trimmed.next.trimmed = .ok (k, c')) := by
  unfold nextKey at h
  rw [blanks_bind, peek?_bind] at h
  generalize c.trimmed.rest.head? = o at h ⊢
  split at h
  · cases h
  · obtain ⟨rfl, rfl⟩ := pure_eq_ok_iff.1 h
    exact .inl ⟨rfl, rfl, rfl⟩
  · split at h
    · next hfirst =>
      obtain ⟨k, mid, hkey, h⟩ := bind_eq_ok_iff.1 h
      obtain ⟨rfl, rfl⟩ := pure_eq_ok_iff.1 h
      exact .inr (.inl ⟨k, rfl, hfirst, hkey⟩)
    · next hfirst =>
      split at h
      · cases h
      · next hcomma =>
        rw [advance_bind, blanks_bind, peek?_bind] at h
        generalize c.trimmed.next.trimmed.rest.head? = o' at h
        split at h
        · cases h
        · cases h
        · obtain ⟨k, mid, hkey, h⟩ := bind_eq_ok_iff.1 h
          obtain ⟨rfl, rfl⟩ := pure_eq_ok_iff.1 h
          rw [not_not.1 hcomma]
          exact .inr (.inr ⟨k, rfl, Bool.eq_false_iff.2 hfirst, rfl, hkey⟩)

theorem skipToEntry_of_none {first : Bool} (h : nextKey first c = .ok (none, c')) :
    skipToEntry first c = .ok (none, c') := by
  obtain ⟨_, hclose, rfl⟩ | ⟨_, ho, _⟩ | ⟨_, ho, _⟩ := nextKey_eq_ok h
  · exact skipToEntry_eq_ok_iff.2 (.inl ⟨rfl, hclose, rfl⟩)
  · cases ho
  · cases ho

theorem skipKey_of_key {k : String} {mid : Cursor} (h : key c.trimmed = .ok (k, mid))
    (hcolon : colon mid = .ok ((), c')) : skipKey c = .ok ((), c') := by
  unfold key at h
  rw [peek?_bind] at h
  generalize ho : c.trimmed.rest.head? = o at h
  split at h
  · rw [advance_bind] at h
    exact skipKey_eq_ok_iff.2 ⟨ho, mid, skipString_of_string h, hcolon⟩
  · cases h

/-- The key and the colon are passed over together. -/
theorem skipToEntry_of_some {first : Bool} {k : String} {mid : Cursor}
    (h : nextKey first c = .ok (some k, mid)) (hcolon : colon mid = .ok ((), c')) :
    skipToEntry first c = .ok (some (), c') := by
  rw [skipToEntry_eq_ok_iff]
  obtain ⟨ho, _⟩ | ⟨_, _, hfirst, hkey⟩ | ⟨_, _, hfirst, hcomma, hkey⟩ := nextKey_eq_ok h
  · cases ho
  · exact .inr (.inl ⟨rfl, hfirst, skipKey_of_key hkey hcolon⟩)
  · exact .inr (.inr ⟨rfl, hfirst, hcomma, skipKey_of_key hkey hcolon⟩)

/-! ### Containers -/

theorem skip_of_trimmed (h : skip c.trimmed = .ok ((), c')) : skip c = .ok ((), c') := by
  have hblanks : skipWithin c.trimmed.rest c = skipWithin c.trimmed.rest c.trimmed := by
    unfold skipWithin
    rw [blanks_bind, blanks_bind, Cursor.trimmed_trimmed]
  have hwithin : skipWithin c.trimmed.rest c = .ok ((), c') := hblanks.trans h
  exact skipWithin_mono hwithin c.rest_trimmed_suffix.length_le

/-- A run of items is passed over if each item is. -/
theorem Loop.skip_items {κ : Type} {next : Bool → Reader (Option κ)}
    {next' : Bool → Reader (Option Unit)} {item : σ → κ → Reader σ} {n : Nat} {s s' : σ}
    (hsuffix : ∀ first c, Extends (· = none) (next' first) c)
    (hdone : ∀ first c c', next first c = .ok (none, c') → next' first c = .ok (none, c'))
    (hmore : ∀ first s k c c₁ s₁ c₂, next first c = .ok (some k, c₁) →
      item s k c₁ = .ok (s₁, c₂) →
        ∃ mid, next' first c = .ok (some (), mid) ∧ skip mid = .ok ((), c₂))
    (h : Loop next item n true s c s' c') {bound : List Char}
    (hbound : c.rest.length ≤ bound.length) :
    items next' (fun () () => skipWithin bound) () c = .ok ((), c') := by
  -- The bound that suffices at the start suffices at each item, for the text gets shorter.
  have hloop : ∃ u, Loop next' (fun () () => skipWithin bound) n true () c u c' := by
    refine h.simulates (R := fun _ _ c => c.rest.length ≤ bound.length) hdone ?_ hbound
    intro first s _ k c c₁ s₁ c₂ hc hnext hitem
    obtain ⟨mid, hmid, hskip⟩ := hmore first s k c c₁ s₁ c₂ hnext hitem
    have hle := ((hsuffix first c).suffix hmid).length_le
    have hwithin : skipWithin bound mid = .ok ((), c₂) := skipWithin_mono hskip (hle.trans hc)
    have hlt := length_lt_of_skipWithin hwithin
    exact ⟨(), mid, (), hmid, hwithin, by omega⟩
  obtain ⟨_, hloop⟩ := hloop
  exact hloop.items_skipWithin hsuffix

/-- A container is opened by one character, which leaves room for what it holds. -/
theorem exists_bound {ch : Char} (h : c.trimmed.rest.head? = some ch) :
    ∃ ch' bound, c.rest = ch' :: bound ∧ c.trimmed.next.rest.length ≤ bound.length := by
  have hle := c.rest_trimmed_suffix.length_le
  rw [Cursor.rest_eq_cons h, List.length_cons] at hle
  cases hrest : c.rest with
  | nil =>
    rw [hrest] at hle
    exact absurd hle (Nat.not_succ_le_zero _)
  | cons ch' bound =>
    rw [hrest, List.length_cons] at hle
    exact ⟨ch', bound, rfl, Nat.le_of_succ_le_succ hle⟩

theorem skip_of_elements {item : σ → Unit → Reader σ} {n : Nat} {s s' : σ}
    (hitem : ∀ s c s' c', item s () c = .ok (s', c') → skip c = .ok ((), c'))
    (hopen : c.trimmed.rest.head? = some '[')
    (h : Loop nextElement item n true s c.trimmed.next s' c') : skip c = .ok ((), c') := by
  obtain ⟨ch, bound, hrest, hbound⟩ := exists_bound hopen
  refine skipWithin_eq_ok_iff.2 (.inl ⟨ch, bound, hrest, hopen, ?_⟩)
  refine h.skip_items (fun first c => extends_skipToElement first)
    (fun _ _ _ => skipToElement_of_none) ?_ hbound
  intro first s k c c₁ s₁ c₂ hnext hi
  obtain ⟨mid, hmid, rfl⟩ := skipToElement_of_some hnext
  exact ⟨mid, hmid, skip_of_trimmed (hitem s mid.trimmed s₁ c₂ hi)⟩

theorem skip_of_fields {field : σ → String → Reader σ} {s s' : σ}
    (hfield : ∀ s k c s' c', field s k c = .ok (s', c') →
      ∃ mid, colon c = .ok ((), mid) ∧ skip mid = .ok ((), c'))
    (hopen : c.trimmed.rest.head? = some '\x7b')
    (h : fields field s c.trimmed.next = .ok (s', c')) : skip c = .ok ((), c') := by
  obtain ⟨ch, bound, hrest, hbound⟩ := exists_bound hopen
  refine skipWithin_eq_ok_iff.2 (.inr (.inl ⟨ch, bound, hrest, hopen, ?_⟩))
  obtain ⟨n, _, hloop⟩ := items_eq_ok_iff.1 h
  refine hloop.skip_items (fun first c => extends_skipToEntry first) ?_ ?_ hbound
  · exact fun first c c' hnext => skipToEntry_of_none (under_eq_ok_iff.1 hnext)
  · intro first s k c c₁ s₁ c₂ hnext hf
    obtain ⟨mid, hcolon, hskip⟩ := hfield s k c₁ s₁ c₂ hf
    exact ⟨mid, skipToEntry_of_some (under_eq_ok_iff.1 hnext) hcolon, hskip⟩

/-! ### Values -/

/-- What is read is an array, an object, or a value that holds no others. -/
theorem value_eq_ok {budget : Nat} {v : Json} (h : value budget c = .ok (v, c')) :
    (∃ inner vs, budget = inner + 1 ∧ v = .arr vs ∧ c.trimmed.rest.head? = some '[' ∧
        elements (value inner) c.trimmed.next = .ok (vs, c')) ∨
      (∃ inner ps, budget = inner + 1 ∧ v = .obj ps ∧ c.trimmed.rest.head? = some '\x7b' ∧
        pairs (value inner) c.trimmed.next = .ok (ps, c')) ∨
      scalar c.trimmed = .ok (v, c') := by
  unfold value at h
  rw [blanks_bind, peek?_bind] at h
  generalize c.trimmed.rest.head? = o at h ⊢
  split at h
  · cases h
  · cases budget with
    | zero => cases h
    | succ inner =>
      replace h : (elements (value inner) >>= fun vs => return .arr vs) c.trimmed.next =
        .ok (v, c') := h
      obtain ⟨vs, mid, hvs, h⟩ := bind_eq_ok_iff.1 h
      obtain ⟨rfl, rfl⟩ := pure_eq_ok_iff.1 h
      exact .inl ⟨inner, vs, rfl, rfl, rfl, hvs⟩
  · cases budget with
    | zero => cases h
    | succ inner =>
      replace h : (pairs (value inner) >>= fun ps => return .obj ps) c.trimmed.next =
        .ok (v, c') := h
      obtain ⟨ps, mid, hps, h⟩ := bind_eq_ok_iff.1 h
      obtain ⟨rfl, rfl⟩ := pure_eq_ok_iff.1 h
      exact .inr (.inl ⟨inner, ps, rfl, rfl, rfl, hps⟩)
  · exact .inr (.inr h)

theorem skip_of_pairs {r : Reader Json} {ps : List (String × Json)}
    (hr : ∀ {c v c'}, r c = .ok (v, c') → skip c = .ok ((), c'))
    (hopen : c.trimmed.rest.head? = some '\x7b') (h : pairs r c.trimmed.next = .ok (ps, c')) :
    skip c = .ok ((), c') := by
  obtain ⟨reversed, mid, hitems, h⟩ := bind_eq_ok_iff.1 h
  obtain ⟨_, rfl⟩ := pure_eq_ok_iff.1 h
  refine skip_of_fields ?_ hopen hitems
  intro acc k c acc' c' hfield
  obtain ⟨_, mid', hcolon, hvalue⟩ := bind_eq_ok_iff.1 hfield
  obtain ⟨v, mid'', hv, hpure⟩ := bind_eq_ok_iff.1 hvalue
  obtain ⟨_, rfl⟩ := pure_eq_ok_iff.1 hpure
  exact ⟨mid', hcolon, hr (under_eq_ok_iff.1 hv)⟩

/-- **A value that is read is passed over**, up to the same place. -/
theorem skip_of_value {budget : Nat} {v : Json} (h : value budget c = .ok (v, c')) :
    skip c = .ok ((), c') := by
  induction budget generalizing c c' v with
  | zero =>
    obtain ⟨_, _, hbudget, _⟩ | ⟨_, _, hbudget, _⟩ | hscalar := value_eq_ok h
    · cases hbudget
    · cases hbudget
    · exact skipWithin_eq_ok_iff.2 (.inr (.inr (skipScalar_of_scalar hscalar)))
  | succ budget ih =>
    obtain ⟨_, vs, hbudget, _, hopen, hvs⟩ | ⟨_, ps, hbudget, _, hopen, hps⟩ | hscalar :=
      value_eq_ok h
    · obtain rfl := Nat.succ.inj hbudget
      obtain ⟨reversed, mid, hitems, hpure⟩ := bind_eq_ok_iff.1 hvs
      obtain ⟨_, rfl⟩ := pure_eq_ok_iff.1 hpure
      obtain ⟨n, _, hloop⟩ := items_eq_ok_iff.1 hitems
      refine skip_of_elements ?_ hopen hloop
      intro acc c acc' c' hitem
      obtain ⟨v, mid', hv, hpure'⟩ := bind_eq_ok_iff.1 hitem
      obtain ⟨_, rfl⟩ := pure_eq_ok_iff.1 hpure'
      exact ih (under_eq_ok_iff.1 hv)
    · obtain rfl := Nat.succ.inj hbudget
      exact skip_of_pairs ih hopen hps
    · exact skipWithin_eq_ok_iff.2 (.inr (.inr (skipScalar_of_scalar hscalar)))

/-! ### Documents -/

theorem skip_of_map {budget : Nat} {ps : List (String × Json)} (h : map budget c = .ok (ps, c')) :
    skip c = .ok ((), c') := by
  unfold map at h
  rw [blanks_bind, peek?_bind] at h
  generalize hopen : c.trimmed.rest.head? = o at h
  split at h
  · cases h
  · cases budget with
    | zero => cases h
    | succ inner => exact skip_of_pairs skip_of_value hopen h
  · exact absurd h mismatch_ne_ok

theorem skip_null {u : Unit} (hn : c.trimmed.rest.head? = some 'n')
    (h : literal "ull" c.trimmed = .ok (u, c')) : skip c = .ok ((), c') := by
  refine skipWithin_eq_ok_iff.2 (.inr (.inr ?_))
  unfold skipScalar
  rw [peek?_bind, hn]
  exact h

theorem skip_of_nullable {α : Type} {r : Reader α} {o : Option α}
    (hr : ∀ {c a c'}, r c = .ok (a, c') → skip c = .ok ((), c'))
    (h : nullable r c = .ok (o, c')) : skip c = .ok ((), c') := by
  unfold nullable at h
  rw [blanks_bind, peek?_bind] at h
  generalize hn : c.trimmed.rest.head? = o' at h
  split at h
  · exact skip_null hn (andThen_pure_eq_ok_iff.1 h).2
  · obtain ⟨a, mid, ha, h⟩ := bind_eq_ok_iff.1 h
    obtain ⟨_, rfl⟩ := pure_eq_ok_iff.1 h
    exact skip_of_trimmed (hr ha)

theorem skip_of_fieldOnce {α : Type} {r : Reader α} {name : String} {seen o : Option α}
    (hr : ∀ {c a c'}, r c = .ok (a, c') → skip c = .ok ((), c'))
    (h : fieldOnce name seen r c = .ok (o, c')) :
    ∃ mid, colon c = .ok ((), mid) ∧ skip mid = .ok ((), c') := by
  unfold fieldOnce at h
  split at h
  · exact absurd h duplicateField_ne_ok
  · obtain ⟨_, mid, hcolon, h⟩ := bind_eq_ok_iff.1 h
    obtain ⟨a, mid', ha, h⟩ := bind_eq_ok_iff.1 h
    obtain ⟨_, rfl⟩ := pure_eq_ok_iff.1 h
    exact ⟨mid, hcolon, hr (under_eq_ok_iff.1 ha)⟩

theorem skip_of_otherField {name : String} {u : Unit} (h : otherField name c = .ok (u, c')) :
    ∃ mid, colon c = .ok ((), mid) ∧ skip mid = .ok ((), c') := by
  obtain ⟨_, mid, hcolon, hskip⟩ := bind_eq_ok_iff.1 h
  exact ⟨mid, hcolon, under_eq_ok_iff.1 hskip⟩

theorem nextElement_of_endOfArray {u : Unit} (h : endOfArray c = .ok (u, c')) (first : Bool) :
    nextElement first c = .ok (none, c') := by
  unfold endOfArray at h
  rw [blanks_bind, peek?_bind] at h
  unfold nextElement
  rw [blanks_bind, peek?_bind]
  generalize c.trimmed.rest.head? = o at h ⊢
  split at h
  · cases h
  · obtain ⟨_, rfl⟩ := Prod.mk.inj (Except.ok.inj h)
    rfl
  · rw [advance_bind, blanks_bind, peek?_bind] at h
    generalize c.trimmed.next.trimmed.rest.head? = o' at h
    split at h
    · cases h
    · cases h
  · cases h

/-- An array of fields, each of which can be passed over. -/
theorem skip_of_array (hopen : c.trimmed.rest.head? = some '[')
    (h : ∃ n, Loop nextElement (fun () () => skip) n true () c.trimmed.next () c') :
    skip c = .ok ((), c') := by
  obtain ⟨n, hloop⟩ := h
  exact skip_of_elements (fun _ _ _ _ => id) hopen hloop

theorem skip_of_components {budget : Nat} {ps : List (String × Json)}
    (h : components budget c = .ok (ps, c')) : skip c = .ok ((), c') := by
  unfold components at h
  rw [blanks_bind, peek?_bind] at h
  generalize hopen : c.trimmed.rest.head? = o at h
  split at h
  · cases h
  · rw [advance_bind] at h
    obtain ⟨schemas, mid, hfields, h⟩ := bind_eq_ok_iff.1 h
    obtain ⟨_, rfl⟩ := pure_eq_ok_iff.1 h
    refine skip_of_fields ?_ hopen hfields
    intro seen name c seen' c' hfield
    split at hfield
    · exact skip_of_fieldOnce skip_of_map hfield
    · exact skip_of_otherField (andThen_pure_eq_ok_iff.1 hfield).2
  · rw [advance_bind] at h
    refine skip_of_array hopen ?_
    obtain ⟨_ | ⟨⟩, c₁, hnext, h⟩ := bind_eq_ok_iff.1 h
    · obtain ⟨_, rfl⟩ := pure_eq_ok_iff.1 h
      exact ⟨0, .done hnext⟩
    · obtain ⟨schemas, c₂, hmap, h⟩ := bind_eq_ok_iff.1 h
      have hend := (andThen_pure_eq_ok_iff.1 h).2
      have hskip := skip_of_map (under_eq_ok_iff.1 hmap)
      exact ⟨1, .more hnext hskip (.done (nextElement_of_endOfArray hend false))⟩
  · exact absurd h mismatch_ne_ok

/-- **A document that is read is passed over**, up to the same place. -/
theorem skip_of_document {budget : Nat} {d : Document} (h : document budget c = .ok (d, c')) :
    skip c = .ok ((), c') := by
  have hdefinitions : ∀ {c o c'}, nullable (map budget) c = .ok (o, c') → skip c = .ok ((), c') :=
    skip_of_nullable skip_of_map
  have hcomponents : ∀ {c o c'}, nullable (components (budget - 1)) c = .ok (o, c') →
      skip c = .ok ((), c') :=
    skip_of_nullable skip_of_components
  unfold document at h
  rw [blanks_bind, peek?_bind] at h
  generalize hopen : c.trimmed.rest.head? = o at h
  split at h
  · cases h
  · rw [advance_bind] at h
    obtain ⟨seen, mid, hfields, h⟩ := bind_eq_ok_iff.1 h
    obtain ⟨_, rfl⟩ := pure_eq_ok_iff.1 h
    refine skip_of_fields ?_ hopen hfields
    intro seen name c seen' c' hfield
    obtain ⟨seenDefinitions, seenComponents⟩ := seen
    dsimp only at hfield
    split at hfield
    · obtain ⟨_, mid', honce, hpure⟩ := bind_eq_ok_iff.1 hfield
      obtain ⟨_, rfl⟩ := pure_eq_ok_iff.1 hpure
      exact skip_of_fieldOnce hdefinitions honce
    · split at hfield
      · obtain ⟨_, mid', honce, hpure⟩ := bind_eq_ok_iff.1 hfield
        obtain ⟨_, rfl⟩ := pure_eq_ok_iff.1 hpure
        exact skip_of_fieldOnce hcomponents honce
      · exact skip_of_otherField (andThen_pure_eq_ok_iff.1 hfield).2
  · rw [advance_bind] at h
    refine skip_of_array hopen ?_
    obtain ⟨_ | ⟨⟩, c₁, hnext, h⟩ := bind_eq_ok_iff.1 h
    · obtain ⟨_, rfl⟩ := pure_eq_ok_iff.1 h
      exact ⟨0, .done hnext⟩
    · obtain ⟨first, c₂, hfirst, h⟩ := bind_eq_ok_iff.1 h
      have hskip := hdefinitions (under_eq_ok_iff.1 hfirst)
      obtain ⟨_ | ⟨⟩, c₃, hnext', h⟩ := bind_eq_ok_iff.1 h
      · obtain ⟨_, rfl⟩ := pure_eq_ok_iff.1 h
        exact ⟨1, .more hnext hskip (.done hnext')⟩
      · obtain ⟨second, c₄, hsecond, h⟩ := bind_eq_ok_iff.1 h
        have hend := (andThen_pure_eq_ok_iff.1 h).2
        have hskip' := hcomponents (under_eq_ok_iff.1 hsecond)
        refine ⟨2, .more hnext hskip (.more hnext' hskip' (.done ?_))⟩
        exact nextElement_of_endOfArray hend false
  · exact absurd h mismatch_ne_ok

end Reader

end SchemaCompiler
