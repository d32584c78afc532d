import Mathlib.Data.List.Forall2
import SchemaCompiler.Text.Pieces

/-!
# Lines

A text in lines can be cut again at its line feeds, provided that no line has one inside:
`Text.unlines_injOn`.  In the same way a list can be cut at the first of its elements that is a
certain separator (`List.append_cons_injOn`); the two are one argument, on characters and on lines.
-/

namespace List

variable {α β γ : Type}

/-- What stands before the first `a`, and what follows it, are determined. -/
theorem append_cons_injOn {a : α} {xs ys rest rest' : List α} (hx : a ∉ xs) (hy : a ∉ ys)
    (h : xs ++ a :: rest = ys ++ a :: rest') : xs = ys ∧ rest = rest' := by
  induction xs generalizing ys with
  | nil =>
    cases ys with
    | nil => exact ⟨rfl, (cons.inj h).2⟩
    | cons y ys => exact absurd ((cons.inj h).1 ▸ mem_cons_self) hy
  | cons x xs ih =>
    cases ys with
    | nil => exact absurd ((cons.inj h).1 ▸ mem_cons_self) hx
    | cons y ys =>
      obtain ⟨rfl, htail⟩ := cons.inj h
      obtain ⟨rfl, hrest⟩ := ih (not_mem_of_not_mem_cons hx) (not_mem_of_not_mem_cons hy) htail
      exact ⟨rfl, hrest⟩

/-- Lists with the same images under two functions agree in both, element by element. -/
theorem forall₂_of_map_eq {f : α → β} {g : α → γ} {xs ys : List α} (hf : xs.map f = ys.map f)
    (hg : xs.map g = ys.map g) : Forall₂ (fun x y => f x = f y ∧ g x = g y) xs ys := by
  induction xs generalizing ys with
  | nil =>
    obtain rfl := map_eq_nil_iff.1 hf.symm
    exact .nil
  | cons x xs ih =>
    cases ys with
    | nil => cases hf
    | cons y ys =>
      obtain ⟨hfx, hfs⟩ := cons.inj hf
      obtain ⟨hgx, hgs⟩ := cons.inj hg
      exact .cons ⟨hfx, hgx⟩ (ih hfs hgs)

end List

namespace SchemaCompiler.Text

variable {a b : String} {xs ys : List String}

/-- There is no line feed in the text. -/
def SingleLine (s : String) : Prop :=
  '\n' ∉ s.toList

/-- For literals, which are lists of characters by definition. -/
theorem singleLine_ofList {cs : List Char} (h : '\n' ∉ cs) : SingleLine (String.ofList cs) := by
  rwa [SingleLine, String.toList_ofList]

@[simp] theorem singleLine_append_iff : SingleLine (a ++ b) ↔ SingleLine a ∧ SingleLine b := by
  simp only [SingleLine, String.toList_append, List.mem_append, not_or]

/-- A text that starts otherwise is another text; for literals as well. -/
theorem ofList_append_ne {start text : List Char} (h : start.isPrefixOf text = false)
    (rest : String) : String.ofList start ++ rest ≠ String.ofList text := by
  intro heq
  rw [← String.toList_inj, String.toList_append, String.toList_ofList, String.toList_ofList] at heq
  have hprefix : start.isPrefixOf text = true := List.isPrefixOf_iff_prefix.2 ⟨_, heq⟩
  rw [h] at hprefix
  cases hprefix

/-- Texts that all start otherwise are other texts. -/
theorem ofList_not_mem_map {α : Type} {f : α → String} {start text : List Char}
    (hstart : ∀ x, ∃ rest, f x = String.ofList start ++ rest)
    (h : start.isPrefixOf text = false) (as : List α) : String.ofList text ∉ as.map f := by
  intro hmem
  obtain ⟨x, _, hx⟩ := List.mem_map.1 hmem
  obtain ⟨rest, hrest⟩ := hstart x
  exact ofList_append_ne h rest (hrest.symm.trans hx)

/-- There is no line feed in any of the texts. -/
def SingleLines (lines : List String) : Prop :=
  ∀ line ∈ lines, SingleLine line

@[simp] theorem singleLines_nil : SingleLines [] :=
  List.forall_mem_nil _

@[simp] theorem singleLines_cons_iff :
    SingleLines (a :: xs) ↔ SingleLine a ∧ SingleLines xs :=
  List.forall_mem_cons

@[simp] theorem singleLines_append_iff :
    SingleLines (xs ++ ys) ↔ SingleLines xs ∧ SingleLines ys :=
  List.forall_mem_append

theorem singleLines_map {α : Type} {f : α → String} (h : ∀ x, SingleLine (f x)) (as : List α) :
    SingleLines (as.map f) :=
  List.forall_mem_map.2 fun x _ => h x

theorem singleLines_flatMap {α : Type} {f : α → List String} (h : ∀ x, SingleLines (f x))
    (as : List α) : SingleLines (as.flatMap f) :=
  List.forall_mem_flatMap.2 fun x _ => h x

theorem unlines_append (xs ys : List String) : unlines (xs ++ ys) = unlines xs ++ unlines ys := by
  induction xs with
  | nil => simp [unlines]
  | cons x xs ih => simp only [List.cons_append, unlines, ih, String.append_assoc]

theorem toList_unlines_cons (line : String) (rest : List String) :
    (unlines (line :: rest)).toList = line.toList ++ '\n' :: (unlines rest).toList := by
  simp [unlines]

/-- **A text determines its lines**, if no line has a line feed inside. -/
theorem unlines_injOn (hx : SingleLines xs) (hy : SingleLines ys)
    (h : unlines xs = unlines ys) : xs = ys := by
  rw [← String.toList_inj] at h
  induction xs generalizing ys with
  | nil =>
    cases ys with
    | nil => rfl
    | cons y ys => simp [unlines] at h
  | cons x xs ih =>
    cases ys with
    | nil => simp [unlines] at h
    | cons y ys =>
      rw [singleLines_cons_iff] at hx hy
      rw [toList_unlines_cons, toList_unlines_cons] at h
      obtain ⟨hline, hrest⟩ := List.append_cons_injOn hx.1 hy.1 h
      rw [String.toList_inj.1 hline, ih hx.2 hy.2 hrest]

end SchemaCompiler.Text
