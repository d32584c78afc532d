import SchemaCompiler.Proofs.Json.Continuation

/-!
# The grammar of JSON

`Grammar.IsText` are the texts that are one JSON value with blanks around it, said without a reader:
a character, a number or a string is a list of characters of a certain form, and arrays and objects
are put together of texts.

`Reader.takes_skip`: what is passed over is a value of this grammar, after blanks.  So are all
values that are read, for they can be passed over.
-/

namespace SchemaCompiler.Grammar

/-! ### Tokens -/

/-- Blanks between tokens. -/
def IsBlanks (cs : List Char) : Prop :=
  ∀ c ∈ cs, c ∈ [' ', '\n', '\t', '\r']

/-- At least one digit. -/
structure IsDigits (cs : List Char) : Prop where
  ne_nil : cs ≠ []
  isDigit : ∀ c ∈ cs, c.isDigit = true

/-- The digits before the point: a leading zero stands alone. -/
inductive IsWhole : List Char → Prop
  | zero : IsWhole ['0']
  | digits {c : Char} {cs : List Char} (h : IsDigits (c :: cs)) (hc : c ≠ '0') : IsWhole (c :: cs)

/-- The point and the digits after it, if there is a point. -/
inductive IsFraction : List Char → Prop
  | absent : IsFraction []
  | digits {cs : List Char} (h : IsDigits cs) : IsFraction ('.' :: cs)

/-- The exponent, if there is one. -/
inductive IsExponent : List Char → Prop
  | absent : IsExponent []
  | digits {mark : Char} {sign cs : List Char} (hmark : mark ∈ ['e', 'E'])
      (hsign : sign ∈ [[], ['+'], ['-']]) (h : IsDigits cs) : IsExponent (mark :: (sign ++ cs))

inductive IsNumber : List Char → Prop
  | intro {sign whole fraction exponent : List Char} (hsign : sign ∈ [[], ['-']])
      (hwhole : IsWhole whole) (hfraction : IsFraction fraction)
      (hexponent : IsExponent exponent) : IsNumber (sign ++ whole ++ fraction ++ exponent)

/-- A digit in base sixteen, in either case. -/
def IsHexDigit (c : Char) : Prop :=
  c.isDigit = true ∨ ('a' ≤ c ∧ c ≤ 'f') ∨ ('A' ≤ c ∧ c ≤ 'F')

/-- A character of a string, or the escape of one or of half of one. -/
inductive IsStringChar : List Char → Prop
  | plain {c : Char} (h : 0x20 ≤ c.toNat) (hquote : c ≠ '"') (hbackslash : c ≠ '\\') :
      IsStringChar [c]
  | escape {c : Char} (h : c ∈ ['"', '\\', '/', 'b', 'f', 'n', 'r', 't']) : IsStringChar ['\\', c]
  | code {code : List Char} (hlength : code.length = 4) (h : ∀ c ∈ code, IsHexDigit c) :
      IsStringChar ('\\' :: 'u' :: code)

inductive IsString : List Char → Prop
  | intro {chars : List (List Char)} (h : ∀ cs ∈ chars, IsStringChar cs) :
      IsString ('"' :: (chars.flatten ++ ['"']))

/-- A key with blanks around it, and the colon after it. -/
inductive IsLabel : List Char → Prop
  | intro {before key after : List Char} (hbefore : IsBlanks before) (hkey : IsString key)
      (hafter : IsBlanks after) : IsLabel (before ++ key ++ after ++ [':'])

/-! ### Values -/

mutual

/-- A value, without blanks around it. -/
inductive IsValue : List Char → Prop
  | null : IsValue "null".toList
  | true : IsValue "true".toList
  | false : IsValue "false".toList
  | number {cs : List Char} (h : IsNumber cs) : IsValue cs
  | string {cs : List Char} (h : IsString cs) : IsValue cs
  | emptyArray {blanks : List Char} (h : IsBlanks blanks) : IsValue ('[' :: (blanks ++ [']']))
  | array {cs : List Char} {others : List (List Char)} (h : IsText cs)
      (hothers : ∀ other ∈ others, IsText other) :
      IsValue ('[' :: (cs ++ others.flatMap (fun other => ',' :: other) ++ [']']))
  | emptyObject {blanks : List Char} (h : IsBlanks blanks) :
      IsValue ('\x7b' :: (blanks ++ ['\x7d']))
  | object {cs : List Char} {others : List (List Char)} (h : IsMember cs)
      (hothers : ∀ other ∈ others, IsMember other) :
      IsValue ('\x7b' :: (cs ++ others.flatMap (fun other => ',' :: other) ++ ['\x7d']))

/-- A value with blanks around it. -/
inductive IsText : List Char → Prop
  | intro {before value after : List Char} (hbefore : IsBlanks before) (h : IsValue value)
      (hafter : IsBlanks after) : IsText (before ++ value ++ after)

/-- An entry of an object. -/
inductive IsMember : List Char → Prop
  | intro {label value : List Char} (hlabel : IsLabel label) (h : IsText value) :
      IsMember (label ++ value)

end

theorem IsBlanks.append {cs cs' : List Char} (h : IsBlanks cs) (h' : IsBlanks cs') :
    IsBlanks (cs ++ cs') := by
  intro c hc
  exact (List.mem_append.1 hc).elim (h c) (h' c)

theorem IsText.after_blanks {blanks cs : List Char} (hblanks : IsBlanks blanks) (h : IsText cs) :
    IsText (blanks ++ cs) := by
  obtain ⟨hbefore, hvalue, hafter⟩ := h
  rw [← List.append_assoc, ← List.append_assoc]
  exact .intro (hblanks.append hbefore) hvalue hafter

/-! ### How a text ends -/

theorem IsBlanks.comma_not_mem {cs : List Char} (h : IsBlanks cs) : ',' ∉ cs :=
  fun hmem => absurd (h ',' hmem) (by decide)

theorem IsDigits.comma_not_mem {cs : List Char} (h : IsDigits cs) : ',' ∉ cs :=
  fun hmem => absurd (h.isDigit ',' hmem) (by decide)

theorem IsNumber.comma_not_mem {cs : List Char} (h : IsNumber cs) : ',' ∉ cs := by
  obtain ⟨hsign, hwhole, hfraction, hexponent⟩ := h
  simp only [List.mem_append, not_or]
  refine ⟨⟨⟨?_, ?_⟩, ?_⟩, ?_⟩
  · have hne : ∀ sign ∈ [[], ['-']], ',' ∉ sign := by simp
    exact hne _ hsign
  · cases hwhole with
    | zero => decide
    | digits h _ => exact h.comma_not_mem
  · cases hfraction with
    | absent => exact List.not_mem_nil
    | digits h => exact List.not_mem_cons_of_ne_of_not_mem (by decide) h.comma_not_mem
  · cases hexponent with
    | absent => exact List.not_mem_nil
    | digits hmark hsign h =>
      have hne : ∀ mark ∈ ['e', 'E'], ',' ≠ mark := by simp
      have hne' : ∀ sign ∈ [[], ['+'], ['-']], ',' ∉ sign := by simp
      rw [List.mem_cons, List.mem_append, not_or, not_or]
      exact ⟨hne _ hmark, hne' _ hsign, h.comma_not_mem⟩

theorem IsValue.getLast?_ne_comma {cs : List Char} (h : IsValue cs) : cs.getLast? ≠ some ',' := by
  -- A string and a container end with the mark that closes them.
  have hclosed : ∀ {opening close : Char} (inner : List Char), close ≠ ',' →
      (opening :: (inner ++ [close])).getLast? ≠ some ',' := by
    intro opening close inner hclose
    rw [← List.cons_append, List.getLast?_concat]
    exact fun heq => hclose (Option.some.inj heq)
  cases h with
  | null => decide
  | true => decide
  | false => decide
  | number h => exact fun hlast => h.comma_not_mem (List.mem_of_getLast? hlast)
  | string h =>
    obtain ⟨_⟩ := h
    exact hclosed _ (by decide)
  | emptyArray _ => exact hclosed _ (by decide)
  | array _ _ => exact hclosed _ (by decide)
  | emptyObject _ => exact hclosed _ (by decide)
  | object _ _ => exact hclosed _ (by decide)

/-- A comma at the end calls for more. -/
theorem IsText.getLast?_ne_comma {cs : List Char} (h : IsText cs) : cs.getLast? ≠ some ',' := by
  obtain ⟨hbefore, hvalue, hafter⟩ := h
  rw [List.getLast?_append, List.getLast?_append]
  intro hlast
  rcases Option.or_eq_some_iff.1 hlast with hlast | ⟨_, hlast⟩
  · exact hafter.comma_not_mem (List.mem_of_getLast? hlast)
  · rcases Option.or_eq_some_iff.1 hlast with hlast | ⟨_, hlast⟩
    · exact hvalue.getLast?_ne_comma hlast
    · exact hbefore.comma_not_mem (List.mem_of_getLast? hlast)

end SchemaCompiler.Grammar

namespace SchemaCompiler.Reader

open Grammar

variable {c c' : Cursor}

/-- What stands between two cursors has the property. -/
def Takes (P : List Char → Prop) (c c' : Cursor) : Prop :=
  ∃ taken, c.rest = taken ++ c'.rest ∧ P taken

theorem isBlank_iff {ch : Char} : isBlank ch = true ↔ ch ∈ [' ', '\n', '\t', '\r'] := by
  simp [isBlank, or_assoc]

theorem takes_trimmed (c : Cursor) : Takes IsBlanks c c.trimmed :=
  ⟨c.rest.takeWhile isBlank, List.takeWhile_append_dropWhile.symm,
    fun _ h => isBlank_iff.1 (List.mem_takeWhile_imp h)⟩

/-! ### Numbers -/

theorem takes_digits {ds : List Nat} (h : digits c = .ok (ds, c')) :
    ∃ run, c.rest = run ++ c'.rest ∧ (∀ ch ∈ run, ch.isDigit = true) ∧
      run.length = ds.length ∧ run = c.rest.takeWhile Char.isDigit := by
  obtain ⟨run, mid, hrun, hpure⟩ := bind_eq_ok_iff.1 h
  obtain ⟨rfl, rfl⟩ := pure_eq_ok_iff.1 hpure
  obtain ⟨rfl, rfl⟩ := Prod.mk.inj (Except.ok.inj hrun)
  exact ⟨c.rest.takeWhile Char.isDigit, List.takeWhile_append_dropWhile.symm,
    fun _ hch => List.mem_takeWhile_imp hch, (List.length_map _).symm, rfl⟩

/-- Digits are taken as long as they come, so that the first one is among them. -/
theorem takes_digits_of_head? {ds : List Nat} {ch : Char} (hhead : c.rest.head? = some ch)
    (hdigit : ch.isDigit = true) (h : digits c = .ok (ds, c')) :
    ∃ run, c.rest = ch :: run ++ c'.rest ∧ IsDigits (ch :: run) := by
  obtain ⟨run, hrest, hrun, _, htake⟩ := takes_digits h
  rw [Cursor.rest_eq_cons hhead, List.takeWhile_cons_of_pos hdigit] at htake
  subst htake
  exact ⟨_, hrest, List.cons_ne_nil _ _, hrun⟩

theorem takes_wholeDigits {cutOff : Fault} {ds : List Nat}
    (h : wholeDigits cutOff c = .ok (ds, c')) : Takes IsWhole c c' := by
  unfold wholeDigits at h
  rw [peek?_bind] at h
  generalize ho : c.rest.head? = o at h
  split at h
  · cases h
  · have hrest := Cursor.rest_eq_cons ho
    rw [advance_bind, peek?_bind] at h
    have hnext : c' = c.next := by
      generalize c.next.rest.head? = o' at h
      split at h
      · split at h
        · cases h
        · exact (pure_eq_ok_iff.1 h).2.symm
      · exact (pure_eq_ok_iff.1 h).2.symm
    exact ⟨['0'], by rw [hrest, hnext]; rfl, .zero⟩
  · next ch hzero =>
    split at h
    · next hdigit =>
      obtain ⟨run, hrest, hdigits⟩ := takes_digits_of_head? ho hdigit h
      exact ⟨ch :: run, hrest, .digits hdigits hzero⟩
    · cases h

theorem takes_fractionDigits {cutOff : Fault} {ds : List Nat}
    (h : fractionDigits cutOff c = .ok (ds, c')) : Takes IsFraction c c' := by
  unfold fractionDigits at h
  rw [peek?_bind] at h
  generalize ho : c.rest.head? = o at h
  split at h
  · rw [advance_bind] at h
    obtain ⟨ds', mid, hds, h⟩ := bind_eq_ok_iff.1 h
    obtain ⟨run, hrest, hrun, hlength, _⟩ := takes_digits hds
    split at h
    · next hsome =>
      obtain ⟨rfl, rfl⟩ := pure_eq_ok_iff.1 h
      have hne : run ≠ [] := by
        rintro rfl
        have hnil : ds' = [] := List.length_eq_zero_iff.1 hlength.symm
        simp [hnil] at hsome
      refine ⟨'.' :: run, ?_, .digits ⟨hne, hrun⟩⟩
      rw [Cursor.rest_eq_cons ho, hrest, List.cons_append]
    · rw [peek?_bind] at h
      generalize mid.rest.head? = o' at h
      split at h
      · cases h
      · cases h
  · obtain ⟨rfl, rfl⟩ := pure_eq_ok_iff.1 h
    exact ⟨[], rfl, .absent⟩

theorem takes_exponentSign {negative : Bool} (h : exponentSign c = .ok (negative, c')) :
    Takes (· ∈ [[], ['+'], ['-']]) c c' := by
  unfold exponentSign at h
  rw [peek?_bind] at h
  generalize ho : c.rest.head? = o at h
  split at h
  · obtain ⟨rfl, rfl⟩ := pure_eq_ok_iff.1 h
    exact ⟨['+'], Cursor.rest_eq_cons ho, by simp⟩
  · obtain ⟨rfl, rfl⟩ := pure_eq_ok_iff.1 h
    exact ⟨['-'], Cursor.rest_eq_cons ho, by simp⟩
  · obtain ⟨rfl, rfl⟩ := pure_eq_ok_iff.1 h
    exact ⟨[], rfl, by simp⟩

theorem takes_exponentPart {cutOff : Fault} {exponent : Option (Bool × List Nat)}
    (h : exponentPart cutOff c = .ok (exponent, c')) : Takes IsExponent c c' := by
  unfold exponentPart at h
  rw [peek?_bind] at h
  generalize hmark : c.rest.head? = o at h
  split at h
  case h_3 =>
    obtain ⟨rfl, rfl⟩ := pure_eq_ok_iff.1 h
    exact ⟨[], rfl, .absent⟩
  -- Either mark leads to the same.
  all_goals
    rw [advance_bind] at h
    obtain ⟨negative, mid, hsign, h⟩ := bind_eq_ok_iff.1 h
    obtain ⟨sign, hrest, hsign⟩ := takes_exponentSign hsign
    rw [peek?_bind] at h
    generalize ho : mid.rest.head? = o' at h
    split at h
    · cases h
    · split at h
      · next hdigit =>
        obtain ⟨ds, mid', hds, hpure⟩ := bind_eq_ok_iff.1 h
        obtain ⟨rfl, rfl⟩ := pure_eq_ok_iff.1 hpure
        obtain ⟨run, hrest', hdigits⟩ := takes_digits_of_head? ho hdigit hds
        have htaken := Cursor.rest_eq_cons hmark
        rw [hrest, hrest', ← List.append_assoc, ← List.cons_append] at htaken
        exact ⟨_, htaken, .digits (by simp) hsign hdigits⟩
      · cases h

theorem takes_numeral {cutOff : Fault} {n : Numeral} (h : numeral cutOff c = .ok (n, c')) :
    Takes IsNumber c c' := by
  have hparts : ∀ {sign negative mid}, sign ∈ [[], ['-']] → c.rest = sign ++ mid.rest → (do
      let whole ← wholeDigits cutOff
      let fraction ← fractionDigits cutOff
      let exponent ← exponentPart cutOff
      return ⟨negative, whole, fraction, exponent⟩ : Reader Numeral) mid = .ok (n, c') →
      Takes IsNumber c c' := by
    intro sign negative mid hsign hrest h
    obtain ⟨_, mid₁, hwhole, h⟩ := bind_eq_ok_iff.1 h
    obtain ⟨_, mid₂, hfraction, h⟩ := bind_eq_ok_iff.1 h
    obtain ⟨_, mid₃, hexponent, h⟩ := bind_eq_ok_iff.1 h
    obtain ⟨rfl, rfl⟩ := pure_eq_ok_iff.1 h
    obtain ⟨whole, hrest₁, hwhole⟩ := takes_wholeDigits hwhole
    obtain ⟨fraction, hrest₂, hfraction⟩ := takes_fractionDigits hfraction
    obtain ⟨exponent, hrest₃, hexponent⟩ := takes_exponentPart hexponent
    refine ⟨_, ?_, .intro hsign hwhole hfraction hexponent⟩
    rw [hrest, hrest₁, hrest₂, hrest₃]
    simp only [List.append_assoc]
  unfold numeral at h
  rw [peek?_bind] at h
  generalize ho : c.rest.head? = o at h
  split at h
  · have hminus : ['-'] ∈ [[], ['-']] := by decide
    exact hparts hminus (Cursor.rest_eq_cons ho) h
  · exact hparts List.mem_cons_self (List.nil_append _).symm h

/-! ### Literals and strings -/

theorem takes_literalRest {chars : List Char} {u : Unit} (h : literalRest chars c = .ok (u, c')) :
    c.rest = chars ++ c'.rest := by
  induction chars generalizing c with
  | nil =>
    obtain ⟨_, rfl⟩ := pure_eq_ok_iff.1 h
    rfl
  | cons expected chars ih =>
    unfold literalRest at h
    rw [peek?_bind] at h
    generalize ho : c.rest.head? = o at h
    split at h
    · cases h
    · split at h
      · next heq =>
        rw [Cursor.rest_eq_cons ho, heq, ih h, List.cons_append]
      · cases h

theorem takes_literal {ch : Char} {text : String} {u : Unit} (hhead : c.rest.head? = some ch)
    (h : literal text c = .ok (u, c')) : c.rest = ch :: text.toList ++ c'.rest := by
  have hrest : c.next.rest = text.toList ++ c'.rest := takes_literalRest h
  rw [Cursor.rest_eq_cons hhead, hrest, List.cons_append]

theorem isHexDigit_of_hexValue? {ch : Char} (h : (hexValue? ch).isSome = true) :
    IsHexDigit ch := by
  unfold hexValue? at h
  split at h
  · next hdigit => exact .inl hdigit
  · split at h
    · next hlower => exact .inr (.inl (by simpa using hlower))
    · split at h
      · next hupper => exact .inr (.inr (by simpa using hupper))
      · cases h

theorem takes_hexCode {n : Nat} (h : hexCode c = .ok (n, c')) :
    Takes (fun code => code.length = 4 ∧ ∀ ch ∈ code, IsHexDigit ch) c c' := by
  obtain ⟨a, b, d, e, hrest, _, hcode⟩ := hexCode_eq_ok h
  obtain ⟨_, _, _, _, _, hvalues⟩ := hexCode?_eq_some hcode
  exact ⟨[a, b, d, e], hrest, rfl, fun ch hch => isHexDigit_of_hexValue? (hvalues ch hch)⟩

theorem mem_of_simpleEscape? {ch : Char} (h : (simpleEscape? ch).isSome = true) :
    ch ∈ ['"', '\\', '/', 'b', 'f', 'n', 'r', 't'] := by
  unfold simpleEscape? at h
  split at h <;> simp_all

theorem takes_skipStringChar_none (h : skipStringChar c = .ok (none, c')) :
    c.rest = '"' :: c'.rest := by
  unfold skipStringChar at h
  rw [peek?_bind] at h
  generalize ho : c.rest.head? = o at h
  split at h
  · cases h
  · obtain ⟨_, rfl⟩ := pure_eq_ok_iff.1 h
    exact Cursor.rest_eq_cons ho
  · rw [advance_bind, peek?_bind] at h
    generalize c.next.rest.head? = o' at h
    split at h
    · cases h
    · rw [advance_bind] at h
      obtain ⟨_, _, _, h⟩ := bind_eq_ok_iff.1 h
      cases (pure_eq_ok_iff.1 h).1
    · split at h
      · cases (pure_eq_ok_iff.1 h).1
      · cases h
  · split at h
    · cases h
    · cases (pure_eq_ok_iff.1 h).1

theorem takes_skipStringChar_some (h : skipStringChar c = .ok (some (), c')) :
    Takes IsStringChar c c' := by
  unfold skipStringChar at h
  rw [peek?_bind] at h
  generalize ho : c.rest.head? = o at h
  split at h
  · cases h
  · cases (pure_eq_ok_iff.1 h).1
  · have hrest := Cursor.rest_eq_cons ho
    rw [advance_bind, peek?_bind] at h
    generalize ho' : c.next.rest.head? = o' at h
    split at h
    · cases h
    · rw [advance_bind] at h
      obtain ⟨n, mid, hcode, h⟩ := bind_eq_ok_iff.1 h
      obtain ⟨_, rfl⟩ := pure_eq_ok_iff.1 h
      obtain ⟨code, hrest', hlength, hdigits⟩ := takes_hexCode hcode
      refine ⟨_, ?_, .code hlength hdigits⟩
      rw [hrest, Cursor.rest_eq_cons ho', hrest']
      rfl
    · split at h
      · next hescape =>
        obtain ⟨_, rfl⟩ := pure_eq_ok_iff.1 h
        refine ⟨_, ?_, .escape (mem_of_simpleEscape? hescape)⟩
        rw [hrest, Cursor.rest_eq_cons ho']
        rfl
      · cases h
  · next ch hquote hbackslash =>
    split at h
    · cases h
    · next hcontrol =>
      obtain ⟨_, rfl⟩ := pure_eq_ok_iff.1 h
      refine ⟨[ch], Cursor.rest_eq_cons ho, .plain (Nat.not_lt.1 hcontrol) ?_ ?_⟩
      · exact fun heq => hquote heq
      · exact fun heq => hbackslash heq

theorem takes_skipString_loop {n : Nat} {first : Bool} {u v : Unit}
    (h : Loop (fun _ => skipStringChar) (fun () () => return ()) n first u c v c') :
    ∃ chars : List (List Char), c.rest = chars.flatten ++ '"' :: c'.rest ∧
      ∀ cs ∈ chars, IsStringChar cs := by
  induction h with
  | done h => exact ⟨[], takes_skipStringChar_none h, by simp⟩
  | more hnext hitem _ ih =>
    obtain ⟨_, rfl⟩ := pure_eq_ok_iff.1 hitem
    obtain ⟨cs, hrest, hcs⟩ := takes_skipStringChar_some hnext
    obtain ⟨chars, hrest', hchars⟩ := ih
    refine ⟨cs :: chars, ?_, List.forall_mem_cons.2 ⟨hcs, hchars⟩⟩
    rw [hrest, hrest', List.flatten_cons, List.append_assoc]

/-- What is left of a string after its opening quote. -/
theorem takes_skipString {u : Unit} (hhead : c.rest.head? = some '"')
    (h : skipString c.next = .ok (u, c')) : Takes IsString c c' := by
  obtain ⟨n, _, hloop⟩ := items_eq_ok_iff.1 h
  obtain ⟨chars, hrest, hchars⟩ := takes_skipString_loop hloop
  refine ⟨_, ?_, .intro hchars⟩
  rw [Cursor.rest_eq_cons hhead, hrest]
  simp

/-! ### Values -/

theorem takes_skipScalar {u : Unit} (h : skipScalar c = .ok (u, c')) : Takes IsValue c c' := by
  unfold skipScalar at h
  rw [peek?_bind] at h
  generalize ho : c.rest.head? = o at h
  split at h
  · exact ⟨_, takes_literal ho h, .null⟩
  · exact ⟨_, takes_literal ho h, .true⟩
  · exact ⟨_, takes_literal ho h, .false⟩
  · obtain ⟨cs, hrest, hcs⟩ := takes_skipString ho h
    exact ⟨cs, hrest, .string hcs⟩
  · split at h
    · obtain ⟨n, mid, hnumeral, h⟩ := bind_eq_ok_iff.1 h
      obtain ⟨_, rfl⟩ := pure_eq_ok_iff.1 h
      obtain ⟨cs, hrest, hcs⟩ := takes_numeral hnumeral
      exact ⟨cs, hrest, .number hcs⟩
    · cases h
  · cases h

/-- A value that stands between two cursors, after blanks. -/
def TakesValue (c c' : Cursor) : Prop :=
  Takes (fun cs => ∃ blanks value, cs = blanks ++ value ∧ IsBlanks blanks ∧ IsValue value) c c'

/-- How the items of a container are announced: `Lead` is what stands between the mark before an
item and its value. -/
structure Announces (next : Bool → Reader (Option Unit)) (close : Char)
    (Lead : List Char → Prop) : Prop where
  ended : ∀ {first c c'}, next first c = .ok (none, c') →
    ∃ blanks, c.rest = blanks ++ close :: c'.rest ∧ IsBlanks blanks
  opened : ∀ {c c'}, next true c = .ok (some (), c') → Takes Lead c c'
  continued : ∀ {c c'}, next false c = .ok (some (), c') →
    ∃ blanks lead, c.rest = blanks ++ ',' :: lead ++ c'.rest ∧ IsBlanks blanks ∧ Lead lead

section Container

variable {next : Bool → Reader (Option Unit)} {close : Char} {Lead Item : List Char → Prop}
  {item : Reader Unit}

/-- What follows an item of a container: the further items, each after a comma. -/
theorem Announces.takes_later (hnext : Announces next close Lead)
    (hlead : ∀ {lead text}, Lead lead → IsText text → Item (lead ++ text))
    (hitem : ∀ {c c'}, item c = .ok ((), c') → TakesValue c c') {n : Nat} {u v : Unit}
    (h : Loop next (fun () () => item) n false u c v c') :
    ∃ (after : List Char) (others : List (List Char)),
      c.rest = after ++ others.flatMap (fun other => ',' :: other) ++ close :: c'.rest ∧
        IsBlanks after ∧ ∀ other ∈ others, Item other := by
  generalize hfirst : false = first at h
  induction h with
  | done h =>
    obtain ⟨blanks, hrest, hblanks⟩ := hnext.ended h
    exact ⟨blanks, [], by simpa using hrest, hblanks, by simp⟩
  | more hn hi _ ih =>
    subst hfirst
    obtain ⟨blanks, lead, hrest, hblanks, hleads⟩ := hnext.continued hn
    obtain ⟨_, hrest', before, value, rfl, hbefore, hvalue⟩ := hitem hi
    obtain ⟨after, others, hrest'', hafter, hothers⟩ := ih rfl
    -- The blanks after this value were taken with what follows it.
    have htext : Item (lead ++ (before ++ value ++ after)) :=
      hlead hleads (.intro hbefore hvalue hafter)
    refine ⟨blanks, (lead ++ (before ++ value ++ after)) :: others, ?_, hblanks,
      List.forall_mem_cons.2 ⟨htext, hothers⟩⟩
    rw [hrest, hrest', hrest'']
    simp only [List.flatMap_cons, List.append_assoc, List.cons_append]

/-- The items of a container, up to its closing mark. -/
theorem Announces.takes (hnext : Announces next close Lead)
    (hlead : ∀ {lead text}, Lead lead → IsText text → Item (lead ++ text))
    (hitem : ∀ {c c'}, item c = .ok ((), c') → TakesValue c c')
    (h : items next (fun () () => item) () c = .ok ((), c')) :
    (∃ blanks, c.rest = blanks ++ close :: c'.rest ∧ IsBlanks blanks) ∨
      ∃ (cs : List Char) (others : List (List Char)),
        c.rest = cs ++ others.flatMap (fun other => ',' :: other) ++ close :: c'.rest ∧
          Item cs ∧ ∀ other ∈ others, Item other := by
  obtain ⟨n, _, hloop⟩ := items_eq_ok_iff.1 h
  cases hloop with
  | done h => exact .inl (hnext.ended h)
  | more hn hi hloop =>
    obtain ⟨lead, hrest, hleads⟩ := hnext.opened hn
    obtain ⟨_, hrest', before, value, rfl, hbefore, hvalue⟩ := hitem hi
    obtain ⟨after, others, hrest'', hafter, hothers⟩ := hnext.takes_later hlead hitem hloop
    have htext : Item (lead ++ (before ++ value ++ after)) :=
      hlead hleads (.intro hbefore hvalue hafter)
    refine .inr ⟨lead ++ (before ++ value ++ after), others, ?_, htext, hothers⟩
    rw [hrest, hrest', hrest'']
    simp only [List.append_assoc]

end Container

/-! ### What announces an item -/

theorem takes_mark {mark : Char} (h : c.trimmed.rest.head? = some mark) :
    ∃ blanks, c.rest = blanks ++ mark :: c.trimmed.next.rest ∧ IsBlanks blanks := by
  obtain ⟨blanks, hrest, hblanks⟩ := takes_trimmed c
  exact ⟨blanks, by rw [hrest, Cursor.rest_eq_cons h], hblanks⟩

theorem colon_eq_ok_iff {u : Unit} :
    colon c = .ok (u, c') ↔ c.trimmed.rest.head? = some ':' ∧ c' = c.trimmed.next := by
  unfold colon
  rw [blanks_bind, peek?_bind]
  generalize c.trimmed.rest.head? = o
  split
  · simp
  · simp [eq_comm]
  · next ch hcolon => simpa using fun heq => absurd heq hcolon

theorem skipKey_eq_ok_iff {u : Unit} :
    skipKey c = .ok (u, c') ↔ c.trimmed.rest.head? = some '"' ∧
      ∃ mid, skipString c.trimmed.next = .ok ((), mid) ∧ colon mid = .ok ((), c') := by
  unfold skipKey
  rw [blanks_bind, peek?_bind]
  generalize c.trimmed.rest.head? = o
  split
  · simp
  · rw [advance_bind, bind_eq_ok_iff]
    exact ⟨fun ⟨_, h⟩ => ⟨rfl, h⟩, fun ⟨_, h⟩ => ⟨(), h⟩⟩
  · next ch hquote => simpa using fun heq => absurd heq hquote

/-- The next element is announced by its first character, or by a comma. -/
theorem skipToElement_eq_ok_iff {first : Bool} {o : Option Unit} :
    skipToElement first c = .ok (o, c') ↔
      (o = none ∧ c.trimmed.rest.head? = some ']' ∧ c' = c.trimmed.next) ∨
      (o = some () ∧ first = true ∧ (∃ ch ≠ ']', c.trimmed.rest.head? = some ch) ∧
        c' = c.trimmed) ∨
      (o = some () ∧ first = false ∧ c.trimmed.rest.head? = some ',' ∧ c' = c.trimmed.next) := by
  unfold skipToElement
  rw [blanks_bind, peek?_bind]
  generalize c.trimmed.rest.head? = o'
  split
  · simp
  · simp [eq_comm]
  · next ch hclose =>
    replace hclose : ch ≠ ']' := hclose
    cases first with
    | true => simp [hclose, eq_comm]
    | false =>
      by_cases hcomma : ch = ','
      · simp [hcomma, eq_comm]
      · simp [hcomma, hclose]

theorem skipKey_trimmed : skipKey c.trimmed = skipKey c := by
  unfold skipKey
  rw [blanks_bind, blanks_bind, Cursor.trimmed_trimmed]

/-- The next entry is announced by its key, after a comma unless it is the first. -/
theorem skipToEntry_eq_ok_iff {first : Bool} {o : Option Unit} :
    skipToEntry first c = .ok (o, c') ↔
      (o = none ∧ c.trimmed.rest.head? = some '\x7d' ∧ c' = c.trimmed.next) ∨
      (o = some () ∧ first = true ∧ skipKey c = .ok ((), c')) ∨
      (o = some () ∧ first = false ∧ c.trimmed.rest.head? = some ',' ∧
        skipKey c.trimmed.next = .ok ((), c')) := by
  have hkey : skipKey c = .ok ((), c') → c.trimmed.rest.head? = some '"' :=
    fun h => (skipKey_eq_ok_iff.1 h).1
  unfold skipToEntry
  rw [blanks_bind, peek?_bind]
  generalize c.trimmed.rest.head? = o' at hkey
  split
  · simp at hkey
    simp [hkey]
  · simp at hkey
    simp [hkey, eq_comm]
  · next ch hclose =>
    replace hclose : ch ≠ '\x7d' := hclose
    cases first with
    | true =>
      rw [if_pos rfl, andThen_pure_eq_ok_iff, skipKey_trimmed]
      simp [hclose]
    | false =>
      by_cases hcomma : ch = ','
      · rw [if_neg Bool.false_ne_true, if_neg (not_not.2 hcomma), advance_bind,
          andThen_pure_eq_ok_iff]
        simp [hcomma]
      · simp [hcomma, hclose]

theorem announces_skipToElement : Announces skipToElement ']' IsBlanks where
  ended := by
    intro first c c' h
    obtain ⟨_, hclose, rfl⟩ | ⟨ho, _⟩ | ⟨ho, _⟩ := skipToElement_eq_ok_iff.1 h
    · exact takes_mark hclose
    · cases ho
    · cases ho
  opened := by
    intro c c' h
    obtain ⟨ho, _⟩ | ⟨_, _, _, rfl⟩ | ⟨_, hfirst, _⟩ := skipToElement_eq_ok_iff.1 h
    · cases ho
    · exact takes_trimmed c
    · cases hfirst
  continued := by
    intro c c' h
    obtain ⟨ho, _⟩ | ⟨_, hfirst, _⟩ | ⟨_, _, hcomma, rfl⟩ := skipToElement_eq_ok_iff.1 h
    · cases ho
    · cases hfirst
    · obtain ⟨blanks, hrest, hblanks⟩ := takes_mark hcomma
      exact ⟨blanks, [], by simpa using hrest, hblanks, by simp [IsBlanks]⟩

theorem takes_skipKey {u : Unit} (h : skipKey c = .ok (u, c')) : Takes IsLabel c c' := by
  obtain ⟨hquote, mid, hstring, hcolon⟩ := skipKey_eq_ok_iff.1 h
  obtain ⟨hmark, rfl⟩ := colon_eq_ok_iff.1 hcolon
  obtain ⟨before, hrest, hbefore⟩ := takes_trimmed c
  obtain ⟨key, hrest', hkey⟩ := takes_skipString hquote hstring
  obtain ⟨after, hrest'', hafter⟩ := takes_mark hmark
  refine ⟨_, ?_, .intro hbefore hkey hafter⟩
  rw [hrest, hrest', hrest'']
  simp only [List.append_assoc, List.cons_append, List.nil_append]

theorem announces_skipToEntry : Announces skipToEntry '\x7d' IsLabel where
  ended := by
    intro first c c' h
    obtain ⟨_, hclose, rfl⟩ | ⟨ho, _⟩ | ⟨ho, _⟩ := skipToEntry_eq_ok_iff.1 h
    · exact takes_mark hclose
    · cases ho
    · cases ho
  opened := by
    intro c c' h
    obtain ⟨ho, _⟩ | ⟨_, _, hkey⟩ | ⟨_, hfirst, _⟩ := skipToEntry_eq_ok_iff.1 h
    · cases ho
    · exact takes_skipKey hkey
    · cases hfirst
  continued := by
    intro c c' h
    obtain ⟨ho, _⟩ | ⟨_, hfirst, _⟩ | ⟨_, _, hcomma, hkey⟩ := skipToEntry_eq_ok_iff.1 h
    · cases ho
    · cases hfirst
    · obtain ⟨blanks, hrest, hblanks⟩ := takes_mark hcomma
      obtain ⟨label, hrest', hlabel⟩ := takes_skipKey hkey
      refine ⟨blanks, label, ?_, hblanks, hlabel⟩
      rw [hrest, hrest', List.append_assoc, List.cons_append]

/-! ### Containers -/

/-- The items of an array, up to its closing bracket, and the bracket before them. -/
theorem takes_array {item : Reader Unit}
    (hitem : ∀ {c c'}, item c = .ok ((), c') → TakesValue c c')
    (hopen : c.rest.head? = some '[')
    (h : items skipToElement (fun () () => item) () c.next = .ok ((), c')) :
    Takes IsValue c c' := by
  have hrest := Cursor.rest_eq_cons hopen
  obtain ⟨blanks, hrest', hblanks⟩ | ⟨cs, others, hrest', hcs, hothers⟩ :=
    announces_skipToElement.takes (fun hlead => IsText.after_blanks hlead) hitem h
  · refine ⟨_, ?_, .emptyArray hblanks⟩
    rw [hrest, hrest']
    simp
  · refine ⟨_, ?_, .array hcs hothers⟩
    rw [hrest, hrest']
    simp

/-- The entries of an object, up to its closing brace, and the brace before them. -/
theorem takes_object {item : Reader Unit}
    (hitem : ∀ {c c'}, item c = .ok ((), c') → TakesValue c c')
    (hopen : c.rest.head? = some '\x7b')
    (h : items skipToEntry (fun () () => item) () c.next = .ok ((), c')) :
    Takes IsValue c c' := by
  have hrest := Cursor.rest_eq_cons hopen
  obtain ⟨blanks, hrest', hblanks⟩ | ⟨cs, others, hrest', hcs, hothers⟩ :=
    announces_skipToEntry.takes IsMember.intro hitem h
  · refine ⟨_, ?_, .emptyObject hblanks⟩
    rw [hrest, hrest']
    simp
  · refine ⟨_, ?_, .object hcs hothers⟩
    rw [hrest, hrest']
    simp

theorem takesValue_of_trimmed (h : Takes IsValue c.trimmed c') : TakesValue c c' := by
  obtain ⟨blanks, hrest, hblanks⟩ := takes_trimmed c
  obtain ⟨value, hrest', hvalue⟩ := h
  exact ⟨_, by rw [hrest, hrest', List.append_assoc], blanks, value, rfl, hblanks, hvalue⟩

theorem takes_skipWithin {bound : List Char} (h : skipWithin bound c = .ok ((), c')) :
    TakesValue c c' := by
  -- The bound is the depth to which values may still nest.
  induction bound generalizing c c' with
  | nil =>
    obtain ⟨_, _, hbound, _⟩ | ⟨_, _, hbound, _⟩ | hscalar := skipWithin_eq_ok_iff.1 h
    · cases hbound
    · cases hbound
    · exact takesValue_of_trimmed (takes_skipScalar hscalar)
  | cons ch bound ih =>
    apply takesValue_of_trimmed
    obtain ⟨_, _, hbound, hopen, h⟩ | ⟨_, _, hbound, hopen, h⟩ | hscalar :=
      skipWithin_eq_ok_iff.1 h
    · obtain ⟨rfl, rfl⟩ := List.cons.inj hbound
      exact takes_array ih hopen h
    · obtain ⟨rfl, rfl⟩ := List.cons.inj hbound
      exact takes_object ih hopen h
    · exact takes_skipScalar hscalar

/-- **What is passed over is one value after blanks.** -/
theorem takes_skip {u : Unit} (h : skip c = .ok (u, c')) : TakesValue c c' :=
  takes_skipWithin h

end SchemaCompiler.Reader
