import SchemaCompiler.Naming
import SchemaCompiler.Proofs.Text.CaseMapping
import SchemaCompiler.Proofs.Text.Lines

/-!
# Names and identifiers

Whatever a name is, its identifier is made of the letters, digits and underscores that both target
languages share, and so it stays on its line.  To put a name in its case and to make an identifier
of it take one step each: a second one changes nothing, although it may see another first character
than the first one did.

* `naming_idempotent`: what the rules for names and identifiers give, and that they are idempotent.
* `startsLower_identifier_typeName`: the identifier of a type name starts with no small letter, so
  that it is no word of a language that writes its words in small letters.
-/

namespace SchemaCompiler.Naming

open Text

variable {recase : Char → List Char} {name : String} {c : Char}

/-- A text stays as it is if each of its characters does. -/
theorem map_eq_self {f : Char → Char} {cs : List Char} (h : ∀ c ∈ cs, f c = c) : cs.map f = cs := by
  conv_rhs => rw [← List.map_id cs]
  exact List.map_congr_left h

/-! ### Names in their case -/

/-- The first character is mapped; in all of the name hyphens become underscores. -/
theorem toList_recased (recase : Char → List Char) (name : String) :
    (recased recase name).toList =
      (name.toList.take 1).flatMap (fun c => recase (underscored c)) ++
        (name.toList.drop 1).map underscored := by
  unfold recased
  cases name.toList with
  | nil => rfl
  | cons first rest => simp

theorem underscored_ne_hyphen (c : Char) : underscored c ≠ '-' := by
  unfold underscored
  split
  · decide
  · assumption

theorem underscored_eq_self (h : c ≠ '-') : underscored c = c :=
  if_neg h

theorem hyphen_not_mem_recased (hrecase : IsCaseMapping recase) (name : String) :
    '-' ∉ (recased recase name).toList := by
  rw [toList_recased, List.mem_append, not_or]
  constructor
  · intro hmem
    obtain ⟨c, _, hc⟩ := List.mem_flatMap.1 hmem
    exact hrecase.hyphen_not_mem _ (underscored_ne_hyphen c) hc
  · intro hmem
    obtain ⟨c, _, hc⟩ := List.mem_map.1 hmem
    exact underscored_ne_hyphen c hc

/-- The first character of a name in its case comes first in an image. -/
theorem exists_recase_of_head?_recased (hrecase : IsCaseMapping recase)
    (h : (recased recase name).toList.head? = some c) : ∃ d rest, recase d = c :: rest := by
  rw [toList_recased] at h
  cases hname : name.toList with
  | nil =>
    rw [hname] at h
    cases h
  | cons first rest =>
    obtain ⟨c', rest', hfirst, _⟩ := hrecase.exists_first (underscored first)
    rw [hname, List.take_succ_cons, List.take_zero, List.flatMap_singleton, hfirst,
      List.cons_append, List.head?_cons] at h
    obtain rfl := Option.some.inj h
    exact ⟨_, _, hfirst⟩

/-- A name without hyphens is in its case if its first character is. -/
theorem recased_eq_self (hhyphen : '-' ∉ name.toList)
    (hfirst : ∀ c, name.toList.head? = some c → recase c = [c]) : recased recase name = name := by
  have hmap : name.toList.map underscored = name.toList :=
    map_eq_self fun c hc => underscored_eq_self fun heq => hhyphen (heq ▸ hc)
  unfold recased
  rw [hmap]
  cases hname : name.toList with
  | nil => exact (String.toList_eq_nil_iff.1 hname).symm
  | cons first rest =>
    show String.ofList (recase first ++ rest) = name
    rw [hfirst first (by rw [hname, List.head?_cons]), List.singleton_append, ← hname,
      String.ofList_toList]

theorem recased_recased (hrecase : IsCaseMapping recase) (name : String) :
    recased recase (recased recase name) = recased recase name := by
  refine recased_eq_self (hyphen_not_mem_recased hrecase name) fun c hc => ?_
  -- The image may start with another character than the name did, but with one that is settled.
  obtain ⟨d, rest, hd⟩ := exists_recase_of_head?_recased hrecase hc
  exact hrecase.recase_first hd

/-! ### Identifiers -/

/-- The texts of the form `[A-Za-z_][A-Za-z0-9_]*`. -/
structure IsIdentifier (s : String) : Prop where
  ne_empty : s ≠ ""
  isIdentifierChar : ∀ c ∈ s.toList, isIdentifierChar c = true
  not_isDigit : ∀ c, s.toList.head? = some c → c.isDigit = false

/-- Identifiers are made of letters, digits and underscores. -/
theorem isIdentifierChar_of_mem_identifier {name : String} {c : Char}
    (h : c ∈ (identifier name).toList) : isIdentifierChar c = true := by
  have hunderscore : isIdentifierChar '_' = true := by decide
  have hmap : ∀ c ∈ name.toList.map fun c => if isIdentifierChar c then c else '_',
      isIdentifierChar c = true := by
    intro c hc
    obtain ⟨d, _, rfl⟩ := List.mem_map.1 hc
    split
    · assumption
    · exact hunderscore
  unfold identifier at h
  split at h
  · obtain rfl : c = '_' := by simpa using h
    exact hunderscore
  · next first rest heq =>
    rw [heq] at hmap
    rw [String.toList_ofList] at h
    split at h
    · rcases List.mem_cons.1 h with rfl | h
      · exact hunderscore
      · exact hmap c h
    · exact hmap c h

theorem singleLine_identifier (name : String) : SingleLine (identifier name) := fun h =>
  absurd (isIdentifierChar_of_mem_identifier h) (by decide)

/-- An identifier starts with an underscore or as its name does, and with no digit. -/
theorem exists_head?_identifier (name : String) : ∃ c, (identifier name).toList.head? = some c ∧
    c.isDigit = false ∧ (c = '_' ∨ name.toList.head? = some c) := by
  unfold identifier
  cases name.toList with
  | nil => exact ⟨'_', rfl, rfl, .inl rfl⟩
  | cons first rest =>
    by_cases hchar : isIdentifierChar first = true
    · by_cases hdigit : first.isDigit = true
      · exact ⟨'_', by simp [hchar, hdigit], rfl, .inl rfl⟩
      · exact ⟨first, by simp [hchar, hdigit], Bool.eq_false_iff.2 hdigit, .inr rfl⟩
    · exact ⟨'_', by simp [hchar], rfl, .inl rfl⟩

theorem isIdentifier_identifier (name : String) : IsIdentifier (identifier name) := by
  obtain ⟨first, hfirst, hdigit, _⟩ := exists_head?_identifier name
  refine ⟨?_, fun c => isIdentifierChar_of_mem_identifier, fun c hc => ?_⟩
  · intro hempty
    rw [hempty] at hfirst
    cases hfirst
  · obtain rfl := Option.some.inj (hfirst.symm.trans hc)
    exact hdigit

namespace IsIdentifier

variable {s : String}

theorem exists_head? (h : IsIdentifier s) : ∃ c, s.toList.head? = some c := by
  cases hs : s.toList with
  | nil => exact absurd (String.toList_eq_nil_iff.1 hs) h.ne_empty
  | cons first rest => exact ⟨first, rfl⟩

theorem identifier_eq (h : IsIdentifier s) : identifier s = s := by
  have hmap : s.toList.map (fun c => if Naming.isIdentifierChar c then c else '_') = s.toList :=
    map_eq_self fun c hc => if_pos (h.isIdentifierChar c hc)
  unfold identifier
  rw [hmap]
  cases hs : s.toList with
  | nil => exact absurd (String.toList_eq_nil_iff.1 hs) h.ne_empty
  | cons first rest =>
    have hdigit : first.isDigit = false := h.not_isDigit first (by rw [hs, List.head?_cons])
    show String.ofList (if first.isDigit then '_' :: first :: rest else first :: rest) = s
    rw [hdigit, if_neg Bool.false_ne_true, ← hs, String.ofList_toList]

/-- Identifiers have no hyphens to begin with, so that only their case may have to change. -/
theorem hyphen_not_mem (h : IsIdentifier s) : '-' ∉ s.toList := fun hmem =>
  absurd (h.isIdentifierChar '-' hmem) (by decide)

theorem append_underscore (h : IsIdentifier s) : IsIdentifier (s ++ "_") := by
  obtain ⟨first, hfirst⟩ := h.exists_head?
  refine ⟨?_, fun c hc => ?_, fun c hc => ?_⟩
  · intro hempty
    exact h.ne_empty (String.append_eq_empty_iff.1 hempty).1
  · rw [String.toList_append, List.mem_append] at hc
    rcases hc with hc | hc
    · exact h.isIdentifierChar c hc
    · rw [List.mem_singleton.1 hc]
      decide
  · rw [String.toList_append, List.head?_append, hfirst, Option.some_or] at hc
    exact h.not_isDigit c (hfirst.trans hc)

end IsIdentifier

/-! ### Small letters at the start -/

/-- Whether a text starts with a small letter of ASCII. -/
def startsLower (s : String) : Bool :=
  s.toList.head?.any Char.isLower

theorem IsIdentifier.startsLower_append {s : String} (h : IsIdentifier s) (t : String) :
    startsLower (s ++ t) = startsLower s := by
  obtain ⟨first, hfirst⟩ := h.exists_head?
  rw [startsLower, startsLower, String.toList_append, List.head?_append, hfirst, Option.some_or]

/-- A text that does not start with a small letter is none of the words that do. -/
theorem not_mem_of_startsLower {s : String} {words : List String}
    (hwords : ∀ word ∈ words, startsLower word = true) (h : startsLower s = false) :
    s ∉ words := by
  intro hmem
  rw [hwords s hmem] at h
  cases h

theorem startsLower_identifier_typeName (record : String) :
    startsLower (identifier (typeName record)) = false := by
  obtain ⟨c, hhead, _, hc⟩ := exists_head?_identifier (typeName record)
  rw [startsLower, hhead, Option.any_some]
  rcases hc with rfl | hc
  · decide
  · obtain ⟨d, rest, hd⟩ := exists_recase_of_head?_recased isCaseMapping_uppercase hc
    exact not_isLower_of_uppercase hd

/-- Of the characters of identifiers the small letters come last. -/
theorem lt_of_isIdentifierChar (hchar : isIdentifierChar c = true) (hlower : c.isLower = false) :
    c < 'a' := by
  have hkinds : (c.isUpper || c.isLower || c.isDigit || c == '_') = true := hchar
  rw [hlower, Bool.or_false, Bool.or_eq_true, Bool.or_eq_true] at hkinds
  rcases hkinds with (hupper | hdigit) | hunderscore
  · have hle : c.toNat ≤ 'Z'.toNat := (of_decide_eq_true hupper).2
    exact Nat.lt_of_le_of_lt hle (by decide)
  · exact Nat.lt_of_le_of_lt (Char.isDigit_iff_toNat.1 hdigit).2 (by decide)
  · rw [beq_iff_eq.1 hunderscore]
    decide

/-- An identifier that starts with no small letter is a type name. -/
theorem typeName_eq_self {s : String} (h : IsIdentifier s) (hlower : startsLower s = false) :
    typeName s = s := by
  refine recased_eq_self h.hyphen_not_mem fun c hc => uppercase_of_lt ?_
  rw [startsLower, hc, Option.any_some] at hlower
  exact lt_of_isIdentifierChar (h.isIdentifierChar c (List.mem_of_mem_head? hc)) hlower

/-- **Names and identifiers are settled after one step.**  A name in its case has the image of its
first character and then the rest of it, with underscores for all hyphens.  An identifier is a text
of the form `[A-Za-z_][A-Za-z0-9_]*`, and the texts of this form are their own identifiers. -/
theorem naming_idempotent (s : String) :
    (typeName (typeName s) = typeName s ∧ '-' ∉ (typeName s).toList ∧
      (typeName s).toList = (s.toList.take 1).flatMap (fun c => uppercase (underscored c)) ++
        (s.toList.drop 1).map underscored) ∧
    (memberName (memberName s) = memberName s ∧ '-' ∉ (memberName s).toList ∧
      (memberName s).toList = (s.toList.take 1).flatMap (fun c => lowercase (underscored c)) ++
        (s.toList.drop 1).map underscored) ∧
    (identifier (identifier s) = identifier s ∧ IsIdentifier (identifier s) ∧
      (identifier s = s ↔ IsIdentifier s)) := by
  have htype := isCaseMapping_uppercase
  have hmember := isCaseMapping_lowercase
  refine ⟨⟨recased_recased htype s, hyphen_not_mem_recased htype s, toList_recased _ s⟩,
    ⟨recased_recased hmember s, hyphen_not_mem_recased hmember s, toList_recased _ s⟩, ?_⟩
  have hidentifier := isIdentifier_identifier s
  exact ⟨hidentifier.identifier_eq, hidentifier, fun h => h ▸ hidentifier,
    IsIdentifier.identifier_eq⟩

-- The image of the first character may be longer than one character.
example : typeName "ß-id" = "SS_id" ∧ typeName "SS_id" = "SS_id" := by
  decide +kernel

end SchemaCompiler.Naming
