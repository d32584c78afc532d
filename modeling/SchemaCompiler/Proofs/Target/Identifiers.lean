import SchemaCompiler.Proofs.Naming
import SchemaCompiler.Target.CppHeader
import SchemaCompiler.Target.RustModule

/-!
# Identifiers of generated code

Names and keys of a schema are arbitrary texts, and the identifiers that are made of them have to
keep clear of the words of the target language.  A member is escaped if its name is one of the words
that the target lists.  A type needs that only for words with a capital or an underscore at their
start, for its identifier never starts with a small letter.

* `RustModule.idents_usable`: types and members are identifiers, raw ones for keywords, and none of
  the words that are no identifiers or that the module uses itself.
* `CppHeader.idents_avoid_keywords`: types are identifiers and no keywords, and so are members but
  for three words that the list of the target lacks.
-/

namespace SchemaCompiler

open Naming (IsIdentifier startsLower)

/-! ### Rust modules -/

namespace RustModule

/-- The identifiers that a type of a record may have. -/
structure IsTypeIdent (s : String) : Prop where
  isIdentifier : IsIdentifier s
  startsLower_eq_false : startsLower s = false
  not_mem_reserved : s ∉ reserved
  not_mem_takenTypes : s ∉ takenTypes

theorem isTypeIdent_typeIdent (record : String) : IsTypeIdent (typeIdent record) := by
  have hname := Naming.isIdentifier_identifier (Naming.typeName record)
  have hlower := Naming.startsLower_identifier_typeName record
  unfold typeIdent
  dsimp only
  split
  · next hused =>
    -- The underscore leads out of both lists.
    have hfree : ∀ word ∈ reserved ++ takenTypes,
        word ++ "_" ∉ reserved ∧ word ++ "_" ∉ takenTypes := by decide +kernel
    obtain ⟨hreserved, htaken⟩ := hfree _ (List.mem_append.2 hused)
    have hlower' := (hname.startsLower_append "_").trans hlower
    exact ⟨hname.append_underscore, hlower', hreserved, htaken⟩
  · next hunused =>
    obtain ⟨hreserved, htaken⟩ := not_or.1 hunused
    exact ⟨hname, hlower, hreserved, htaken⟩

/-- The identifiers of types are those that stay as they are. -/
theorem IsTypeIdent.typeIdent_eq {s : String} (h : IsTypeIdent s) : typeIdent s = s := by
  unfold typeIdent
  rw [Naming.typeName_eq_self h.isIdentifier h.startsLower_eq_false, h.isIdentifier.identifier_eq]
  exact if_neg (not_or.2 ⟨h.not_mem_reserved, h.not_mem_takenTypes⟩)

/-- The list of keywords is not consulted for types: all of them start with a small letter. -/
theorem IsTypeIdent.not_mem_keywords {s : String} (h : IsTypeIdent s) : s ∉ keywords :=
  Naming.not_mem_of_startsLower (by decide +kernel) h.startsLower_eq_false

theorem memberIdent_cases (key : String) :
    (IsIdentifier (memberIdent key) ∧ memberIdent key ∉ keywords ∧ memberIdent key ∉ reserved) ∨
      ∃ word ∈ keywords, memberIdent key = "r#" ++ word := by
  have hname := Naming.isIdentifier_identifier (Naming.memberName key)
  unfold memberIdent
  dsimp only
  split
  · next hreserved =>
    have hfree : ∀ word ∈ reserved, word ++ "_" ∉ keywords ∧ word ++ "_" ∉ reserved := by
      decide +kernel
    exact .inl ⟨hname.append_underscore, hfree _ hreserved⟩
  · next hunreserved =>
    split
    · next hkeyword => exact .inr ⟨_, hkeyword, rfl⟩
    · next hfree => exact .inl ⟨hname, hfree, hunreserved⟩

/-- **Every name and every key has a usable identifier.**  That of a type starts with no small
letter, is no keyword and none of the names that are taken, and is its own identifier; that of a
member is an identifier and no keyword, or a keyword in its raw form. -/
theorem idents_usable (s : String) :
    (IsIdentifier (typeIdent s) ∧ startsLower (typeIdent s) = false ∧ typeIdent s ≠ "_" ∧
      typeIdent s ∉ keywords ∧ typeIdent s ∉ reserved ∧ typeIdent s ∉ takenTypes ∧
      typeIdent (typeIdent s) = typeIdent s) ∧
    ((IsIdentifier (memberIdent s) ∧ memberIdent s ∉ keywords ∧ memberIdent s ∉ reserved) ∨
      ∃ word ∈ keywords, memberIdent s = "r#" ++ word) := by
  have htype := isTypeIdent_typeIdent s
  have hunderscore : "_" ∈ reserved := by decide +kernel
  refine ⟨⟨htype.isIdentifier, htype.startsLower_eq_false, fun h => ?_, htype.not_mem_keywords,
    htype.not_mem_reserved, htype.not_mem_takenTypes, htype.typeIdent_eq⟩, memberIdent_cases s⟩
  exact htype.not_mem_reserved (h ▸ hunderscore)

end RustModule

/-! ### C++ headers -/

namespace CppHeader

/-- The keywords of the language, and the words that stand for its operators. -/
def languageKeywords : List String :=
  ["alignas", "alignof", "and", "and_eq", "asm", "auto", "bitand", "bitor", "bool", "break",
   "case", "catch", "char", "char8_t", "char16_t", "char32_t", "class", "compl", "concept",
   "const", "consteval", "constexpr", "constinit", "const_cast", "continue", "co_await",
   "co_return", "co_yield", "decltype", "default", "delete", "do", "double", "dynamic_cast",
   "else", "enum", "explicit", "export", "extern", "false", "float", "for", "friend", "goto", "if",
   "inline", "int", "long", "mutable", "namespace", "new", "noexcept", "not", "not_eq", "nullptr",
   "operator", "or", "or_eq", "private", "protected", "public", "register", "reinterpret_cast",
   "requires", "return", "short", "signed", "sizeof", "static", "static_assert", "static_cast",
   "struct", "switch", "template", "this", "thread_local", "throw", "true", "try", "typedef",
   "typeid", "typename", "union", "unsigned", "using", "virtual", "void", "volatile", "wchar_t",
   "while", "xor", "xor_eq"]

/-- The types of the characters of encoded texts. -/
def characterTypes : List String :=
  ["char8_t", "char16_t", "char32_t"]

/-- The words that are escaped are the keywords of the language but for three of them. -/
theorem mem_keywords_iff {word : String} :
    word ∈ keywords ↔ word ∈ languageKeywords ∧ word ∉ characterTypes := by
  have heq : keywords = languageKeywords.filter fun word => word ∉ characterTypes := by
    decide +kernel
  rw [heq, List.mem_filter, decide_eq_true_eq]

theorem isIdentifier_memberIdent (key : String) : IsIdentifier (memberIdent key) := by
  have hname := Naming.isIdentifier_identifier (Naming.memberName key)
  unfold memberIdent
  dsimp only
  split
  · exact hname.append_underscore
  · exact hname

/-- No keyword ends with an underscore, so that to add one is to escape it. -/
theorem append_underscore_not_mem_languageKeywords (s : String) : s ++ "_" ∉ languageKeywords := by
  have hlast : ∀ word ∈ languageKeywords, word.toList.getLast? ≠ some '_' := by decide +kernel
  intro hmem
  apply hlast _ hmem
  rw [String.toList_append]
  exact List.getLast?_concat

theorem memberIdent_mem_languageKeywords_iff (key : String) :
    memberIdent key ∈ languageKeywords ↔
      Naming.identifier (Naming.memberName key) ∈ characterTypes := by
  have hcharacters : ∀ word ∈ characterTypes, word ∈ languageKeywords := by decide +kernel
  unfold memberIdent
  dsimp only
  split
  · next hkeyword =>
    exact iff_of_false (append_underscore_not_mem_languageKeywords _) (mem_keywords_iff.1 hkeyword).2
  · next hunlisted =>
    -- A keyword that is not escaped is not listed, and so it is one of the three.
    refine ⟨fun hmem => ?_, hcharacters _⟩
    by_contra hother
    exact hunlisted (mem_keywords_iff.2 ⟨hmem, hother⟩)

/-- **Types and members are identifiers, and no keywords but for three members.**  The list of
keywords that members are compared with lacks the types of the characters of encoded texts. -/
theorem idents_avoid_keywords (s : String) :
    (IsIdentifier (typeIdent s) ∧ typeIdent s ∉ languageKeywords) ∧
    (IsIdentifier (memberIdent s) ∧ (memberIdent s ∈ languageKeywords ↔
      Naming.identifier (Naming.memberName s) ∈ characterTypes)) := by
  have htype : typeIdent s ∉ languageKeywords :=
    Naming.not_mem_of_startsLower (by decide +kernel) (Naming.startsLower_identifier_typeName s)
  exact ⟨⟨Naming.isIdentifier_identifier _, htype⟩, isIdentifier_memberIdent s,
    memberIdent_mem_languageKeywords_iff s⟩

/-- The key `char8_t` becomes a member of that name, which is a keyword. -/
theorem memberIdent_char8_t :
    memberIdent "char8_t" = "char8_t" ∧ memberIdent "char8_t" ∈ languageKeywords := by
  decide +kernel

end CppHeader

end SchemaCompiler
