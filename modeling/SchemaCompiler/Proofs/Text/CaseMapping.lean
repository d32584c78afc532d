import Mathlib.Data.Nat.Bitwise
import SchemaCompiler.Text.CaseMapping

/-!
# Case mapping settles after one step

The image of a character may be longer than the character, and so to map a text twice is to map two
different first characters.  That the second time changes nothing is a property of the table: no
image starts with a character that the table sends elsewhere.  It is a statement about two sets of
code points, and as each of them has more than a thousand elements, they are compared as the bits of
two numbers.

* `isCaseMapping_uppercase`, `isCaseMapping_lowercase`: both mappings have the laws that names rely
  on.
* `not_isLower_of_uppercase`: no upper-case form starts with a small letter of ASCII.
-/

namespace SchemaCompiler.Text

/-- What names rely on of a case mapping: images are not empty, the first character of an image is
its own image, and only the hyphen has one in its image. -/
structure IsCaseMapping (recase : Char → List Char) : Prop where
  exists_first : ∀ c, ∃ first rest, recase c = first :: rest ∧ recase first = [first]
  hyphen_not_mem : ∀ c, c ≠ '-' → '-' ∉ recase c

theorem IsCaseMapping.recase_first {recase : Char → List Char} (hrecase : IsCaseMapping recase)
    {c first : Char} {rest : List Char} (h : recase c = first :: rest) :
    recase first = [first] := by
  obtain ⟨first', rest', hfirst, hself⟩ := hrecase.exists_first c
  obtain ⟨rfl, rfl⟩ := List.cons.inj (hfirst.symm.trans h)
  exact hself

/-! ### Sets of numbers as bits -/

/-- The number whose bits stand at the given positions. -/
def bits : List Nat → Nat
  | [] => 0
  | n :: ns => 1 <<< n ||| bits ns

theorem testBit_bits (ns : List Nat) (n : Nat) : (bits ns).testBit n = decide (n ∈ ns) := by
  induction ns with
  | nil => simp [bits]
  | cons m ns ih =>
    rw [bits, Nat.testBit_or, ih, Nat.one_shiftLeft, Nat.testBit_two_pow]
    simp only [List.mem_cons, Bool.decide_or, eq_comm]

/-- Numbers without a common bit stand for sets without a common element. -/
theorem not_mem_of_bits_and_eq_zero {ns ms : List Nat} (h : bits ns &&& bits ms = 0) {n : Nat}
    (hn : n ∈ ns) : n ∉ ms := by
  intro hm
  have hbit : (bits ns &&& bits ms).testBit n = true := by
    rw [Nat.testBit_and, testBit_bits, testBit_bits, decide_eq_true hn, decide_eq_true hm,
      Bool.and_self]
  rw [h, Nat.zero_testBit] at hbit
  cases hbit

/-! ### Runs -/

namespace CaseRun

variable {r : CaseRun} {n : Nat}

/-- How many code points the run has. -/
def size (r : CaseRun) : Nat :=
  (r.last - r.first) / r.step + 1

/-- The code points of the run. -/
def codePoints (r : CaseRun) : List Nat :=
  List.range' r.first r.size r.step

/-- The images of the code points of the run. -/
def images (r : CaseRun) : List Nat :=
  List.range' r.image r.size r.step

/-- A code point of a run lies a whole number of steps after the first one. -/
theorem exists_steps (h : r.holds n = true) : ∃ i < r.size, n = r.first + r.step * i := by
  simp only [holds, Bool.and_eq_true, decide_eq_true_eq, beq_iff_eq] at h
  obtain ⟨⟨hfirst, hlast⟩, hmod⟩ := h
  have hsteps : r.step * ((n - r.first) / r.step) = n - r.first :=
    Nat.mul_div_cancel' (Nat.dvd_of_mod_eq_zero hmod)
  have hspan : n - r.first ≤ r.last - r.first := by omega
  refine ⟨(n - r.first) / r.step, ?_, by omega⟩
  exact Nat.lt_succ_of_le (Nat.div_le_div_right hspan)

theorem mem_codePoints (h : r.holds n = true) : n ∈ r.codePoints := by
  rw [codePoints, List.mem_range']
  exact exists_steps h

theorem first_le (h : n ∈ r.codePoints) : r.first ≤ n := by
  obtain ⟨i, _, rfl⟩ := List.mem_range'.1 h
  exact Nat.le_add_right _ _

theorem apply_mem_images (h : r.holds n = true) : r.apply n ∈ r.images := by
  obtain ⟨i, hi, rfl⟩ := exists_steps h
  rw [images, List.mem_range']
  exact ⟨i, hi, by rw [apply, Nat.add_sub_cancel_left]⟩

end CaseRun

/-! ### Tables -/

/-- A code point of a character after the hyphen. -/
def IsPastHyphen (n : Nat) : Prop :=
  n.isValidChar ∧ '-'.toNat < n

instance : DecidablePred IsPastHyphen := fun _ => inferInstanceAs (Decidable (_ ∧ _))

theorem IsPastHyphen.toNat_ofNat {n : Nat} (h : IsPastHyphen n) : (Char.ofNat n).toNat = n := by
  rw [Char.ofNat, dif_pos h.1]
  rfl

namespace CaseTable

variable {t : CaseTable} {c : Char}

/-- The code points that the table sends elsewhere. -/
def domain (t : CaseTable) : List Nat :=
  t.expansions.map (·.1) ++ t.runs.flatMap CaseRun.codePoints

/-- The code points that images start with. -/
def heads (t : CaseTable) : List Nat :=
  t.expansions.filterMap (·.2.head?) ++ t.runs.flatMap CaseRun.images

/-- Images are texts without hyphens, and none of them starts with a character that the table sends
elsewhere. -/
structure Settled (t : CaseTable) : Prop where
  expansions : ∀ e ∈ t.expansions, e.2 ≠ [] ∧ ∀ n ∈ e.2, IsPastHyphen n
  runs : ∀ r ∈ t.runs, ∀ n ∈ r.images, IsPastHyphen n
  apart : ∀ n ∈ t.heads, n ∉ t.domain

theorem map_of_not_mem_domain (h : c.toNat ∉ t.domain) : t.map c = [c] := by
  simp only [domain, List.mem_append, List.mem_map, List.mem_flatMap, not_or, not_exists,
    not_and] at h
  obtain ⟨hexpansions, hruns⟩ := h
  have hno : t.expansions.find? (fun e => e.1 == c.toNat) = none := by
    rw [List.find?_eq_none]
    intro e he heq
    exact hexpansions e he (beq_iff_eq.1 heq)
  have hrun : t.runs.find? (fun r => r.holds c.toNat) = none := by
    rw [List.find?_eq_none]
    intro r hr hholds
    exact hruns r hr (CaseRun.mem_codePoints hholds)
  rw [map, hno, hrun]

/-- A character stands for itself, or its image is one of the table. -/
theorem Settled.map_cases (h : t.Settled) (c : Char) : t.map c = [c] ∨
    ∃ n ns, t.map c = (n :: ns).map Char.ofNat ∧ n ∈ t.heads ∧ ∀ m ∈ n :: ns, IsPastHyphen m := by
  unfold map
  split
  · next e he =>
    have hmem := List.mem_of_find?_eq_some he
    obtain ⟨hne, hpast⟩ := h.expansions e hmem
    obtain ⟨n, ns, hns⟩ := List.exists_cons_of_ne_nil hne
    have hhead : n ∈ t.expansions.filterMap (·.2.head?) :=
      List.mem_filterMap.2 ⟨e, hmem, by rw [hns, List.head?_cons]⟩
    exact .inr ⟨n, ns, by rw [hns], List.mem_append_left _ hhead, hns ▸ hpast⟩
  · split
    · next r hr =>
      have hmem := List.mem_of_find?_eq_some hr
      have hholds := List.find?_some hr
      have himage := CaseRun.apply_mem_images hholds
      have hhead : r.apply c.toNat ∈ t.runs.flatMap CaseRun.images :=
        List.mem_flatMap.2 ⟨r, hmem, himage⟩
      refine .inr ⟨r.apply c.toNat, [], rfl, List.mem_append_right _ hhead, fun m hm => ?_⟩
      rw [List.mem_singleton.1 hm]
      exact h.runs r hmem _ himage
    · exact .inl rfl

theorem Settled.isCaseMapping (h : t.Settled) : IsCaseMapping t.map where
  exists_first c := by
    obtain hself | ⟨n, ns, hmap, hhead, hpast⟩ := h.map_cases c
    · exact ⟨c, [], hself, hself⟩
    · -- The first character of an image is at rest, whatever the others are.
      refine ⟨Char.ofNat n, ns.map Char.ofNat, hmap, map_of_not_mem_domain ?_⟩
      rw [(hpast n List.mem_cons_self).toNat_ofNat]
      exact h.apart n hhead
  hyphen_not_mem c hc := by
    obtain hself | ⟨n, ns, hmap, _, hpast⟩ := h.map_cases c
    · rw [hself, List.mem_singleton]
      exact hc.symm
    · rw [hmap]
      intro hmem
      obtain ⟨m, hm, heq⟩ := List.mem_map.1 hmem
      have hlt := (hpast m hm).2
      rw [← heq, (hpast m hm).toNat_ofNat] at hlt
      exact Nat.lt_irrefl m hlt

end CaseTable

/-! ### The two tables -/

theorem settled_upperTable : upperTable.Settled where
  expansions := by decide +kernel
  runs := by decide +kernel
  apart _ := not_mem_of_bits_and_eq_zero (by decide +kernel)

theorem settled_lowerTable : lowerTable.Settled where
  expansions := by decide +kernel
  runs := by decide +kernel
  apart _ := not_mem_of_bits_and_eq_zero (by decide +kernel)

theorem isCaseMapping_uppercase : IsCaseMapping uppercase :=
  settled_upperTable.isCaseMapping

theorem isCaseMapping_lowercase : IsCaseMapping lowercase :=
  settled_lowerTable.isCaseMapping

/-- The characters before the small letters of ASCII are their own upper-case forms. -/
theorem uppercase_of_lt {c : Char} (h : c < 'a') : uppercase c = [c] := by
  have hexpansions : ∀ e ∈ upperTable.expansions, 'a'.toNat ≤ e.1 := by decide +kernel
  have hruns : ∀ r ∈ upperTable.runs, 'a'.toNat ≤ r.first := by decide +kernel
  apply CaseTable.map_of_not_mem_domain
  intro hmem
  -- Whatever the table sends elsewhere is `a` or comes after it.
  have hle : 'a'.toNat ≤ c.toNat := by
    rcases List.mem_append.1 hmem with hmem | hmem
    · obtain ⟨e, he, heq⟩ := List.mem_map.1 hmem
      exact heq ▸ hexpansions e he
    · obtain ⟨r, hr, hpoint⟩ := List.mem_flatMap.1 hmem
      exact (hruns r hr).trans (CaseRun.first_le hpoint)
  exact absurd h (Char.not_lt.2 hle)

/-- A small letter of ASCII is not its own upper-case form. -/
theorem uppercase_ne_self {c : Char} (h : c.isLower = true) : uppercase c ≠ [c] := by
  have hall : ∀ n ∈ List.range' 'a'.toNat 26, uppercase (Char.ofNat n) ≠ [Char.ofNat n] := by
    decide +kernel
  have hrange : c.toNat ∈ List.range' 'a'.toNat 26 := by
    obtain ⟨ha, hz⟩ := Bool.and_eq_true_iff.1 h
    have hle : 'a'.toNat ≤ c.toNat := of_decide_eq_true ha
    have hge : c.toNat ≤ 'z'.toNat := of_decide_eq_true hz
    exact List.mem_range'_1.2 ⟨hle, Nat.lt_succ_of_le hge⟩
  have hne := hall c.toNat hrange
  rwa [Char.ofNat_toNat] at hne

/-- No upper-case form starts with a small letter of ASCII. -/
theorem not_isLower_of_uppercase {c first : Char} {rest : List Char}
    (h : uppercase c = first :: rest) : first.isLower = false := by
  rw [Bool.eq_false_iff]
  intro hlower
  exact uppercase_ne_self hlower (isCaseMapping_uppercase.recase_first h)

end SchemaCompiler.Text
