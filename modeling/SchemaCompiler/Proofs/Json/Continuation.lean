import SchemaCompiler.Proofs.Json.Reader
import SchemaCompiler.Schema.Document

/-!
# What follows a value

No reader looks further than the character after what it reads, and a reader of strings, arrays,
objects and documents not even there: it knows their ends by the closing mark.  So a document that
has been read is read in the same way whatever follows it (`extends_document`).
-/

namespace SchemaCompiler.Reader

variable {c : Cursor}

/-! ### Numbers and literals -/

theorem extends_digits : Extends Unsure digits c :=
  (extends_takeWhile Char.isDigit).bind fun _ _ _ => extends_pure id

theorem extends_wholeDigits (cutOff : Fault) : Extends Unsure (wholeDigits cutOff) c := by
  unfold wholeDigits
  refine .peek fun o ho => ?_
  split
  · exact extends_failHere cutOff
  · refine (extends_advance ho).unsure.bind fun _ mid _ => .peek fun o' _ => ?_
    split
    · split
      · exact extends_failNext _
      · exact extends_pure id
    · exact extends_pure id
  · split
    · exact extends_digits
    · exact extends_failAfter 1 _

theorem extends_fractionDigits (cutOff : Fault) : Extends Unsure (fractionDigits cutOff) c := by
  unfold fractionDigits
  refine .peek fun o ho => ?_
  split
  · refine (extends_advance ho).unsure.bind fun _ mid _ => extends_digits.bind fun ds mid' _ => ?_
    split
    · exact extends_pure id
    · refine .peek fun o' _ => ?_
      split
      · exact extends_failHere cutOff
      · exact extends_failNext _
  · exact extends_pure id

theorem extends_exponentSign : Extends Unsure exponentSign c := by
  unfold exponentSign
  refine .peek fun o ho => ?_
  split
  · exact (extends_advance ho).finish
  · exact (extends_advance ho).finish
  · exact extends_pure id

theorem extends_exponentPart (cutOff : Fault) : Extends Unsure (exponentPart cutOff) c := by
  unfold exponentPart
  refine .peek fun o ho => ?_
  split
  case h_3 => exact extends_pure id
  -- Either mark leads to the same.
  all_goals
    refine (extends_advance ho).unsure.bind fun _ mid _ => ?_
    refine extends_exponentSign.bind fun negative mid' _ => .peek fun o' _ => ?_
    split
    · exact extends_failHere cutOff
    · split
      · exact extends_digits.bind fun _ _ _ => extends_pure id
      · exact extends_failAfter 1 _

theorem extends_numeral (cutOff : Fault) : Extends Unsure (numeral cutOff) c := by
  unfold numeral
  have hparts : ∀ negative c, Extends Unsure (do
      let whole ← wholeDigits cutOff
      let fraction ← fractionDigits cutOff
      let exponent ← exponentPart cutOff
      return (⟨negative, whole, fraction, exponent⟩ : Numeral)) c := by
    intro negative c
    refine (extends_wholeDigits cutOff).bind fun whole mid _ => ?_
    refine (extends_fractionDigits cutOff).bind fun fraction mid' _ => ?_
    exact (extends_exponentPart cutOff).bind fun _ _ _ => extends_pure id
  refine .peek fun o ho => ?_
  split
  · exact (extends_advance ho).unsure.bind fun _ mid _ => hparts true mid
  · exact hparts false c

theorem extends_number : Extends Unsure number c := by
  unfold number
  refine (extends_numeral _).bind fun n mid _ => ?_
  split
  · exact extends_pure id
  · exact extends_failBefore _ _

theorem extends_literalRest (chars : List Char) : Extends Unsure (literalRest chars) c := by
  induction chars generalizing c with
  | nil => exact extends_pure id
  | cons expected chars ih =>
    unfold literalRest
    refine .peek fun o ho => ?_
    split
    · exact extends_failHere _
    · split
      · exact (extends_advance ho).unsure.bind fun _ mid _ => ih
      · exact extends_failAfter 1 _

theorem extends_literal {ch : Char} (h : c.rest.head? = some ch) (text : String) :
    Extends Unsure (literal text) c :=
  (extends_advance h).unsure.bind fun _ _ _ => extends_literalRest text.toList

/-! ### Strings -/

/-- A code has four digits. -/
theorem hexCode?_eq_some {code : List Char} {n : Nat} (h : hexCode? code = some n) :
    ∃ a b d e, code = [a, b, d, e] ∧ ∀ ch ∈ code, (hexValue? ch).isSome = true := by
  unfold hexCode? at h
  split at h
  · next a b d e =>
    simp only [Option.bind_eq_bind, Option.bind_eq_some_iff] at h
    obtain ⟨va, ha, vb, hb, vd, hd, ve, he, _⟩ := h
    exact ⟨a, b, d, e, rfl, by simp [ha, hb, hd, he]⟩
  · cases h

theorem hexCode_eq_ok {n : Nat} {c' : Cursor} (h : hexCode c = .ok (n, c')) :
    ∃ a b d e, c.rest = a :: b :: d :: e :: c'.rest ∧ c' = c.next.next.next.next ∧
      hexCode? [a, b, d, e] = some n := by
  unfold hexCode at h
  split at h
  · next m hm =>
    obtain ⟨rfl, rfl⟩ := Prod.mk.inj (Except.ok.inj h)
    obtain ⟨a, b, d, e, htake, _⟩ := hexCode?_eq_some hm
    obtain ⟨rest, position⟩ := c
    have hrest : rest = a :: b :: d :: e :: rest.drop 4 := by
      conv_lhs => rw [← List.take_append_drop 4 rest, htake]
      rfl
    rw [htake] at hm
    rw [hrest]
    exact ⟨a, b, d, e, rfl, rfl, hm⟩
  · cases h

theorem extends_hexCode : Extends Unsure hexCode c := by
  intro n c' h
  obtain ⟨a, b, d, e, hrest, rfl, hn⟩ := hexCode_eq_ok h
  have hsuffix : c.next.next.next.next.rest <:+ c.rest := by
    rw [hrest]
    exact ⟨[a, b, d, e], rfl⟩
  refine ⟨hsuffix, fun _ => ⟨by simp [hrest], fun more => ?_⟩⟩
  obtain ⟨rest, position⟩ := c
  simp only at hrest
  rw [hrest]
  simp [hexCode, Cursor.extend, hn, Cursor.next]

theorem extends_pairMark (mark : Char) : Extends Unsure (pairMark mark) c := by
  unfold pairMark
  refine .peek fun o ho => ?_
  split
  · exact extends_failHere _
  · split
    · exact (extends_advance ho).unsure
    · exact extends_failAfter 1 _

theorem extends_codeEscape : Extends Unsure codeEscape c := by
  unfold codeEscape
  refine extends_hexCode.bind fun n mid _ => ?_
  split
  · exact extends_failHere _
  · split
    · refine (extends_pairMark _).bind fun _ mid₁ _ => (extends_pairMark _).bind fun _ mid₂ _ => ?_
      refine extends_hexCode.bind fun m mid₃ _ => ?_
      split
      · exact extends_pure id
      · exact extends_failHere _
    · exact extends_pure id

theorem extends_escape : Extends Unsure escape c := by
  unfold escape
  refine .peek fun o ho => ?_
  split
  · exact extends_failHere _
  · exact (extends_advance ho).unsure.bind fun _ _ _ => extends_codeEscape
  · split
    · exact (extends_advance ho).finish
    · exact extends_failAfter 1 _

theorem extends_stringChar : Extends (· = none) stringChar c := by
  unfold stringChar
  refine .peek fun o ho => ?_
  split
  · exact extends_failHere _
  · exact (extends_advance ho).finish
  · refine (extends_advance ho).unsure.bind fun _ mid _ => extends_escape.bind fun _ _ _ => ?_
    exact extends_pure nofun
  · refine (extends_advance ho).unsure.bind fun _ mid _ => ?_
    split
    · exact extends_failHere _
    · exact extends_pure nofun

theorem extends_string : Extends Certain string c := by
  unfold string
  refine (extends_items (fun _ _ => extends_stringChar) (fun _ _ _ => ?_) _).finish
  exact extends_pure id

theorem extends_scalar : Extends Unsure scalar c := by
  unfold scalar
  refine .peek fun o ho => ?_
  split
  · exact (extends_literal ho _).bind fun _ _ _ => extends_pure id
  · exact (extends_literal ho _).bind fun _ _ _ => extends_pure id
  · exact (extends_literal ho _).bind fun _ _ _ => extends_pure id
  · refine (extends_advance ho).unsure.bind fun _ mid _ => ?_
    exact extends_string.finish
  · split
    · exact extends_number.bind fun _ _ _ => extends_pure id
    · exact extends_failNext _
  · exact extends_failNext _

/-! ### Values -/

theorem extends_nextElement (first : Bool) : Extends (· = none) (nextElement first) c := by
  unfold nextElement
  refine extends_blanks.bind fun _ mid _ => .peek fun o ho => ?_
  split
  · exact extends_failNext _
  · exact (extends_advance ho).finish
  · split
    · exact extends_pure nofun
    · split
      · exact extends_failNext _
      · refine (extends_advance ho).unsure.bind fun _ mid' _ => ?_
        refine extends_blanks.bind fun _ mid'' _ => .peek fun o' _ => ?_
        split
        · exact extends_failNext _
        · exact extends_failNext _
        · exact extends_pure nofun

theorem extends_key : Extends Certain key c := by
  unfold key
  refine .peek fun o ho => ?_
  split
  · exact (extends_advance ho).unsure.bind fun _ _ _ => extends_string
  · exact extends_failNext _

theorem extends_nextKey (first : Bool) : Extends (· = none) (nextKey first) c := by
  unfold nextKey
  refine extends_blanks.bind fun _ mid _ => .peek fun o ho => ?_
  split
  · exact extends_failNext _
  · exact (extends_advance ho).finish
  · split
    · exact extends_key.finish
    · split
      · exact extends_failNext _
      · refine (extends_advance ho).unsure.bind fun _ mid' _ => ?_
        refine extends_blanks.bind fun _ mid'' _ => .peek fun o' _ => ?_
        split
        · exact extends_failNext _
        · exact extends_failNext _
        · exact extends_key.finish

theorem extends_colon : Extends Unsure colon c := by
  unfold colon
  refine extends_blanks.bind fun _ mid _ => .peek fun o ho => ?_
  split
  · exact extends_failNext _
  · exact (extends_advance ho).unsure
  · exact extends_failNext _

theorem extends_elements {r : Reader Json} (hr : ∀ c, Extends Unsure r c) :
    Extends Certain (elements r) c := by
  unfold elements
  refine (extends_items (fun first _ => extends_nextElement first) (fun acc _ c => ?_) _).finish
  exact ((hr c).under _).bind fun _ _ _ => extends_pure id

theorem extends_pairs {r : Reader Json} (hr : ∀ c, Extends Unsure r c) :
    Extends Certain (pairs r) c := by
  unfold pairs
  have hkey : ∀ first c, Extends (· = none) ((nextKey first).under .unknown) c :=
    fun first _ => (extends_nextKey first).under _
  refine (extends_items hkey (fun acc k c => ?_) _).finish
  refine extends_colon.bind fun _ mid _ => ?_
  exact ((hr mid).under _).bind fun _ _ _ => extends_pure id

theorem extends_value (budget : Nat) : Extends Unsure (value budget) c := by
  induction budget generalizing c with
  | zero =>
    unfold value
    refine extends_blanks.bind fun _ mid _ => .peek fun o ho => ?_
    split
    · exact extends_failNext _
    · exact extends_failNext _
    · exact extends_failNext _
    · exact extends_scalar
  | succ budget ih =>
    unfold value
    refine extends_blanks.bind fun _ mid _ => .peek fun o ho => ?_
    split
    · exact extends_failNext _
    · refine (extends_advance ho).unsure.bind fun _ mid' _ => ?_
      exact (extends_elements fun c => ih).finish
    · refine (extends_advance ho).unsure.bind fun _ mid' _ => ?_
      exact (extends_pairs fun c => ih).finish
    · exact extends_scalar

/-! ### Values that are passed over -/

theorem extends_skipStringChar : Extends (· = none) skipStringChar c := by
  unfold skipStringChar
  refine .peek fun o ho => ?_
  split
  · exact extends_failHere _
  · exact (extends_advance ho).finish
  · refine (extends_advance ho).unsure.bind fun _ mid _ => .peek fun o' ho' => ?_
    split
    · exact extends_failHere _
    · refine (extends_advance ho').unsure.bind fun _ mid' _ => ?_
      exact extends_hexCode.bind fun _ _ _ => extends_pure nofun
    · split
      · exact (extends_advance ho').finish
      · exact extends_failAfter 1 _
  · split
    · exact extends_failHere _
    · exact (extends_advance ho).finish

theorem extends_skipString : Extends Certain skipString c :=
  extends_items (fun _ _ => extends_skipStringChar) (fun _ _ _ => extends_pure id) _

theorem extends_skipScalar : Extends Unsure skipScalar c := by
  unfold skipScalar
  refine .peek fun o ho => ?_
  split
  · exact extends_literal ho _
  · exact extends_literal ho _
  · exact extends_literal ho _
  · exact (extends_advance ho).unsure.bind fun _ mid _ => extends_skipString.unsure
  · split
    · exact (extends_numeral _).bind fun _ _ _ => extends_pure id
    · exact extends_failNext _
  · exact extends_failNext _

theorem extends_skipToElement (first : Bool) : Extends (· = none) (skipToElement first) c := by
  unfold skipToElement
  refine extends_blanks.bind fun _ mid _ => .peek fun o ho => ?_
  split
  · exact extends_failNext _
  · exact (extends_advance ho).finish
  · split
    · exact extends_pure nofun
    · split
      · exact extends_failNext _
      · exact (extends_advance ho).finish

theorem extends_skipKey : Extends Unsure skipKey c := by
  unfold skipKey
  refine extends_blanks.bind fun _ mid _ => .peek fun o ho => ?_
  split
  · exact extends_failNext _
  · refine (extends_advance ho).unsure.bind fun _ _ _ => ?_
    exact extends_skipString.unsure.bind fun _ _ _ => extends_colon
  · exact extends_failNext _

theorem extends_skipToEntry (first : Bool) : Extends (· = none) (skipToEntry first) c := by
  unfold skipToEntry
  refine extends_blanks.bind fun _ mid _ => .peek fun o ho => ?_
  split
  · exact extends_failNext _
  · exact (extends_advance ho).finish
  · split
    · exact extends_skipKey.bind fun _ _ _ => extends_pure nofun
    · split
      · exact extends_failNext _
      · refine (extends_advance ho).unsure.bind fun _ _ _ => ?_
        exact extends_skipKey.bind fun _ _ _ => extends_pure nofun

theorem extends_skipWithin (bound : List Char) : Extends Unsure (skipWithin bound) c := by
  induction bound generalizing c with
  | nil =>
    unfold skipWithin
    refine extends_blanks.bind fun _ mid _ => .peek fun o ho => ?_
    split
    · exact extends_failNext _
    · exact extends_failNext _
    · exact extends_failNext _
    · exact extends_skipScalar
  | cons ch bound ih =>
    unfold skipWithin
    refine extends_blanks.bind fun _ mid _ => .peek fun o ho => ?_
    split
    · exact extends_failNext _
    · refine (extends_advance ho).unsure.bind fun _ _ _ => ?_
      exact (extends_items (fun first _ => extends_skipToElement first) (fun _ _ _ => ih) _).unsure
    · refine (extends_advance ho).unsure.bind fun _ _ _ => ?_
      exact (extends_items (fun first _ => extends_skipToEntry first) (fun _ _ _ => ih) _).unsure
    · exact extends_skipScalar

/-- Whether a value starts with the mark of a container, or there is none. -/
def IsOpening (o : Option Char) : Prop :=
  o = none ∨ o = some '[' ∨ o = some '\x7b'

theorem skipScalar_ne_ok {p : Unit × Cursor} (h : IsOpening c.rest.head?) :
    skipScalar c ≠ .ok p := by
  unfold skipScalar
  rw [peek?_bind]
  rcases h with h | h | h <;> rw [h] <;> simp

/-- What is passed over is an array, an object, or a value that holds no others. -/
theorem skipWithin_eq_ok_iff {bound : List Char} {c' : Cursor} :
    skipWithin bound c = .ok ((), c') ↔
      (∃ ch bound', bound = ch :: bound' ∧ c.trimmed.rest.head? = some '[' ∧
        items skipToElement (fun () () => skipWithin bound') () c.trimmed.next = .ok ((), c')) ∨
      (∃ ch bound', bound = ch :: bound' ∧ c.trimmed.rest.head? = some '\x7b' ∧
        items skipToEntry (fun () () => skipWithin bound') () c.trimmed.next = .ok ((), c')) ∨
      skipScalar c.trimmed = .ok ((), c') := by
  have hscalar := skipScalar_ne_ok (c := c.trimmed) (p := ((), c'))
  conv_lhs => unfold skipWithin
  rw [blanks_bind, peek?_bind]
  generalize c.trimmed.rest.head? = o at hscalar
  split
  · simp [hscalar (.inl rfl)]
  · cases bound <;> simp [hscalar (.inr (.inl rfl))]
  · cases bound <;> simp [hscalar (.inr (.inr rfl))]
  · next ch hbracket hbrace =>
    simp only [Option.some.injEq, iff_false_intro hbracket, iff_false_intro hbrace, false_and,
      and_false, exists_false, false_or]

/-- A greater bound does not matter to a value within a smaller one. -/
theorem skipWithin_mono {bound bound' : List Char} {c' : Cursor}
    (h : skipWithin bound c = .ok ((), c')) (hle : bound.length ≤ bound'.length) :
    skipWithin bound' c = .ok ((), c') := by
  induction bound generalizing bound' c c' with
  | nil =>
    rw [skipWithin_eq_ok_iff] at h ⊢
    obtain ⟨ch, rest, hbound, _⟩ | ⟨ch, rest, hbound, _⟩ | hscalar := h
    · cases hbound
    · cases hbound
    · exact .inr (.inr hscalar)
  | cons ch bound ih =>
    obtain _ | ⟨ch', bound'⟩ := bound'
    · exact absurd hle (Nat.not_succ_le_zero _)
    have hle' : bound.length ≤ bound'.length := Nat.le_of_succ_le_succ hle
    have hitems : ∀ {next : Bool → Reader (Option Unit)} {c},
        items next (fun () () => skipWithin bound) () c = .ok ((), c') →
        items next (fun () () => skipWithin bound') () c = .ok ((), c') := by
      intro next c h
      obtain ⟨n, hn, hloop⟩ := items_eq_ok_iff.1 h
      have hfollow : ∃ u, Loop next (fun () () => skipWithin bound') n true () c u c' := by
        refine hloop.simulates (R := fun _ _ _ => True) (fun _ _ _ => id) ?_ trivial
        intro _ _ _ k _ c₁ _ _ _ hnext hitem
        exact ⟨k, c₁, (), hnext, ih hitem hle', trivial⟩
      obtain ⟨_, hloop'⟩ := hfollow
      exact items_eq_ok_iff.2 ⟨n, hn, hloop'⟩
    rw [skipWithin_eq_ok_iff] at h ⊢
    obtain ⟨_, _, hbound, hhead, h⟩ | ⟨_, _, hbound, hhead, h⟩ | hscalar := h
    · obtain ⟨rfl, rfl⟩ := List.cons.inj hbound
      exact .inl ⟨ch', bound', rfl, hhead, hitems h⟩
    · obtain ⟨rfl, rfl⟩ := List.cons.inj hbound
      exact .inr (.inl ⟨ch', bound', rfl, hhead, hitems h⟩)
    · exact .inr (.inr hscalar)

theorem extends_skip : Extends Unsure skip c := by
  intro u c' h
  obtain ⟨hsuffix, hextend⟩ := extends_skipWithin c.rest u c' h
  refine ⟨hsuffix, fun hor => ?_⟩
  obtain ⟨hne, hmore⟩ := hextend hor
  refine ⟨hne, fun more => skipWithin_mono (hmore more) ?_⟩
  rw [Cursor.rest_extend, List.length_append]
  omega

/-! ### Documents -/

theorem mismatch_ne_ok {α : Type} {wanted : Wanted} {p : α × Cursor} :
    (mismatch wanted : Reader α) c ≠ .ok p := by
  unfold mismatch
  rw [peek?_bind]
  generalize c.rest.head? = o
  intro h
  split at h
  · exact failHere_ne_ok h
  · exact failHere_ne_ok h
  · obtain ⟨_, _, _, hfail⟩ := bind_eq_ok_iff.1 h
    exact failHere_ne_ok hfail

theorem extends_mismatch {α : Type} {Sure : α → Prop} (wanted : Wanted) :
    Extends Sure (mismatch wanted) c :=
  extends_of_ne_ok fun _ => mismatch_ne_ok

theorem extends_map (budget : Nat) : Extends Unsure (map budget) c := by
  unfold map
  refine extends_blanks.bind fun _ mid _ => .peek fun o ho => ?_
  split
  · exact extends_failNext _
  · split
    · exact extends_failNext _
    · refine (extends_advance ho).unsure.bind fun _ _ _ => ?_
      exact (extends_pairs fun c => extends_value _).unsure
  · exact extends_mismatch _

theorem extends_nullable {α : Type} {r : Reader α} (hr : ∀ c, Extends Unsure r c) :
    Extends Unsure (nullable r) c := by
  unfold nullable
  refine extends_blanks.bind fun _ mid _ => .peek fun o ho => ?_
  split
  · exact (extends_literal ho _).bind fun _ _ _ => extends_pure id
  · exact (hr mid).bind fun _ _ _ => extends_pure id

theorem duplicateField_ne_ok {α : Type} {name : String} {p : α × Cursor} :
    (duplicateField name : Reader α) c ≠ .ok p := by
  unfold duplicateField
  rw [blanks_bind, peek?_bind]
  generalize c.trimmed.rest.head? = o
  intro h
  split at h
  · exact failHere_ne_ok h
  · exact failHere_ne_ok h

theorem extends_fieldOnce {α : Type} {r : Reader α} (hr : ∀ c, Extends Unsure r c) (name : String)
    (seen : Option α) : Extends Unsure (fieldOnce name seen r) c := by
  unfold fieldOnce
  split
  · exact extends_of_ne_ok fun _ => duplicateField_ne_ok
  · refine extends_colon.bind fun _ mid _ => ?_
    exact ((hr mid).under _).bind fun _ _ _ => extends_pure id

theorem extends_otherField (name : String) : Extends Unsure (otherField name) c := by
  unfold otherField
  exact extends_colon.bind fun _ mid _ => extends_skip.under _

theorem extends_endOfArray : Extends Certain endOfArray c := by
  unfold endOfArray
  refine extends_blanks.bind fun _ mid _ => .peek fun o ho => ?_
  split
  · exact extends_failNext _
  · exact extends_advance ho
  · refine (extends_advance ho).unsure.bind fun _ _ _ => ?_
    refine extends_blanks.bind fun _ _ _ => .peek fun o' _ => ?_
    split
    · exact extends_failNext _
    · exact extends_failNext _
  · exact extends_failNext _

theorem extends_fields {σ : Type} {field : σ → String → Reader σ}
    (hfield : ∀ s name c, Extends Unsure (field s name) c) (s : σ) :
    Extends Certain (fields field s) c :=
  extends_items (fun first _ => (extends_nextKey first).under _) hfield s

theorem extends_components (budget : Nat) : Extends Certain (components budget) c := by
  unfold components
  refine extends_blanks.bind fun _ mid _ => .peek fun o ho => ?_
  split
  · exact extends_failNext _
  · refine (extends_advance ho).unsure.bind fun _ _ _ => ?_
    refine (extends_fields (fun seen name c => ?_) none).finish
    split
    · exact extends_fieldOnce (fun c => extends_map budget) name seen
    · exact (extends_otherField name).bind fun _ _ _ => extends_pure id
  · refine (extends_advance ho).unsure.bind fun _ mid' _ => ?_
    refine (extends_nextElement true).announced rfl fun _ mid'' _ => ?_
    refine ((extends_map budget).under _).bind fun _ _ _ => ?_
    exact extends_endOfArray.finish
  · exact extends_mismatch _

/-- **A document is read in the same way whatever follows it.** -/
theorem extends_document (budget : Nat) : Extends Certain (document budget) c := by
  have hdefinitions : ∀ c, Extends Unsure (nullable (map budget)) c :=
    fun c => extends_nullable fun c => extends_map budget
  have hcomponents : ∀ c, Extends Unsure (nullable (components (budget - 1))) c :=
    fun c => extends_nullable fun c => (extends_components _).unsure
  unfold document
  refine extends_blanks.bind fun _ mid _ => .peek fun o ho => ?_
  split
  · exact extends_failNext _
  · refine (extends_advance ho).unsure.bind fun _ _ _ => ?_
    refine (extends_fields (fun seen name c => ?_) (none, none)).finish
    obtain ⟨seenDefinitions, seenComponents⟩ := seen
    dsimp only
    split
    · exact (extends_fieldOnce hdefinitions name _).bind fun _ _ _ => extends_pure id
    · split
      · exact (extends_fieldOnce hcomponents name _).bind fun _ _ _ => extends_pure id
      · exact (extends_otherField name).bind fun _ _ _ => extends_pure id
  · refine (extends_advance ho).unsure.bind fun _ mid' _ => ?_
    refine (extends_nextElement true).announced rfl fun _ mid'' _ => ?_
    refine ((hdefinitions mid'').under _).bind fun first mid₁ _ => ?_
    refine (extends_nextElement false).announced rfl fun _ mid₂ _ => ?_
    refine ((hcomponents mid₂).under _).bind fun second mid₃ _ => ?_
    exact extends_endOfArray.finish
  · exact extends_mismatch _

end SchemaCompiler.Reader
