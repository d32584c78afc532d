import Mathlib.Data.List.Induction
import SchemaCompiler.Entries

/-!
# First and last occurrences

`List.eraseDups` keeps of every element the first occurrence.  Erasing what comes again may be put
off or done early: it makes no difference to what follows (`List.eraseDups_eraseDups_append`).  This
is why a loop that never appends what it has seen yields the same list as one that appends
everything and erases at the end.

For entries built from a list of pairs it gives both halves of their rule: the names stand in the
order of their first occurrences (`Entries.keys_ofList`), and each has the value of its last one
(`Entries.last_of_mem_ofList`).
-/

namespace List

variable {α : Type} [BEq α] [LawfulBEq α] {xs ys : List α}

/-- A list without repetitions is left as it is. -/
theorem Nodup.eraseDups_eq (h : xs.Nodup) : xs.eraseDups = xs := by
  induction xs with
  | nil => rfl
  | cons x rest ih =>
    obtain ⟨hx, hrest⟩ := nodup_cons.1 h
    have hfilter : rest.filter (fun y => !y == x) = rest := by
      refine filter_eq_self.2 fun y hy => ?_
      have hne : y ≠ x := fun heq => hx (heq ▸ hy)
      simpa using hne
    rw [eraseDups_cons, hfilter, ih hrest]

theorem nodup_eraseDups (xs : List α) : xs.eraseDups.Nodup := by
  match xs with
  | [] => exact nodup_nil
  | x :: rest =>
    rw [eraseDups_cons, nodup_cons]
    refine ⟨fun hx => ?_, nodup_eraseDups _⟩
    rw [mem_eraseDups, mem_filter] at hx
    simp at hx
termination_by xs.length
decreasing_by exact Nat.lt_succ_of_le (length_filter_le _ _)

/-- What is removed depends on the elements of the second list alone. -/
theorem removeAll_congr {zs : List α} (h : ∀ x, x ∈ ys ↔ x ∈ zs) :
    xs.removeAll ys = xs.removeAll zs := by
  unfold removeAll
  refine filter_congr fun x _ => ?_
  have hx := h x
  rw [← elem_iff, ← elem_iff] at hx
  rw [Bool.eq_iff_iff.2 hx]

/-- **Repetitions may be erased early**: what follows makes up for it. -/
theorem eraseDups_eraseDups_append (xs ys : List α) :
    (xs.eraseDups ++ ys).eraseDups = (xs ++ ys).eraseDups := by
  have hremove : ys.removeAll xs.eraseDups = ys.removeAll xs :=
    removeAll_congr fun _ => mem_eraseDups
  rw [eraseDups_append, eraseDups_append, (nodup_eraseDups xs).eraseDups_eq, hremove]

/-- Elements that are there already add nothing. -/
theorem eraseDups_append_of_subset (h : ∀ y ∈ ys, y ∈ xs) :
    (xs ++ ys).eraseDups = xs.eraseDups := by
  have hremove : ys.removeAll xs = [] := by
    refine filter_eq_nil_iff.2 fun y hy => ?_
    simpa using h y hy
  rw [eraseDups_append, hremove, eraseDups_nil, append_nil]

end List

namespace SchemaCompiler.Entries

variable {α : Type}

theorem ofList_concat (pairs : List (String × α)) (p : String × α) :
    ofList (pairs ++ [p]) = (ofList pairs).insert p.1 p.2 := by
  simp only [ofList, List.foldl_append, List.foldl_cons, List.foldl_nil]

/-- Inserting appends the name, and erases it again if it was there. -/
theorem keys_insert_eq_eraseDups {es : Entries α} (h : es.keys.Nodup) (key : String) (v : α) :
    (es.insert key v).keys = (es.keys ++ [key]).eraseDups := by
  rw [keys_insert]
  by_cases hk : key ∈ es.keys
  · have hmem : ∀ y ∈ [key], y ∈ es.keys := fun y hy => List.mem_singleton.1 hy ▸ hk
    rw [if_pos hk, List.eraseDups_append_of_subset hmem, h.eraseDups_eq]
  · have hnodup : (es.keys ++ [key]).Nodup := by
      have hinsert := keys_nodup_insert h key v
      rwa [keys_insert, if_neg hk] at hinsert
    rw [if_neg hk, hnodup.eraseDups_eq]

/-- **Names stand in the order of their first occurrences.** -/
theorem keys_ofList (pairs : Entries α) : (ofList pairs).keys = pairs.keys.eraseDups := by
  induction pairs using List.reverseRecOn with
  | nil => rfl
  | append_singleton pairs p ih =>
    rw [ofList_concat, keys_insert_eq_eraseDups (keys_nodup_ofList pairs), ih,
      List.eraseDups_eraseDups_append, keys_append]
    rfl

/-- **Each name has the value of its last occurrence.** -/
theorem last_of_mem_ofList {pairs : Entries α} {key : String} {v : α}
    (h : (key, v) ∈ ofList pairs) :
    ∃ before after : Entries α, pairs = before ++ (key, v) :: after ∧ key ∉ after.keys := by
  rw [← get?_eq_some_iff (keys_nodup_ofList pairs)] at h
  induction pairs using List.reverseRecOn with
  | nil => cases h
  | append_singleton pairs p ih =>
    rw [ofList_concat, get?_insert] at h
    by_cases hk : key = p.1
    · -- The last pair has the name, and nothing follows it.
      rw [if_pos hk] at h
      have hp : p = (key, v) := Prod.ext hk.symm (Option.some.inj h)
      exact ⟨pairs, [], by rw [hp], List.not_mem_nil⟩
    · rw [if_neg hk] at h
      obtain ⟨before, after, hsplit, hafter⟩ := ih h
      have hkey : key ∉ (after ++ [p]).keys := by
        rw [keys_append, List.mem_append, not_or]
        exact ⟨hafter, fun hkp => hk (List.mem_singleton.1 hkp)⟩
      exact ⟨before, after ++ [p], by rw [hsplit, List.append_assoc, List.cons_append], hkey⟩

end SchemaCompiler.Entries
