import Mathlib.Data.List.Forall2

/-!
# Sequences of steps that may fail

What the success and the failure of a sequence say about its steps: a computation that succeeds is
taken apart step by step, and one that fails is traced to the step that failed.  A computation on a
state is applied to the state that it starts in.
-/

namespace Except

variable {ε α β : Type} {x : Except ε α}

theorem bind_eq_ok_iff {f : α → Except ε β} {b : β} :
    x >>= f = .ok b ↔ ∃ a, x = .ok a ∧ f a = .ok b := by
  cases x <;> simp [bind, Except.bind]

theorem bind_eq_error_iff {f : α → Except ε β} {e : ε} :
    x >>= f = .error e ↔ x = .error e ∨ ∃ a, x = .ok a ∧ f a = .error e := by
  cases x <;> simp [bind, Except.bind]

theorem map_eq_ok_iff {f : α → β} {b : β} : x.map f = .ok b ↔ ∃ a, x = .ok a ∧ f a = b := by
  cases x <;> simp [Except.map]

theorem map_eq_error_iff {f : α → β} {e : ε} : x.map f = .error e ↔ x = .error e := by
  cases x <;> simp [Except.map]

theorem mapError_eq_ok_iff {ε' : Type} {f : ε → ε'} {a : α} :
    x.mapError f = .ok a ↔ x = .ok a := by
  cases x <;> simp [Except.mapError]

theorem mapError_eq_error_iff {ε' : Type} {f : ε → ε'} {e' : ε'} :
    x.mapError f = .error e' ↔ ∃ e, x = .error e ∧ f e = e' := by
  cases x <;> simp [Except.mapError]

theorem toOption_eq_some_iff {a : α} : x.toOption = some a ↔ x = .ok a := by
  cases x <;> simp [Except.toOption]

end Except

namespace StateM

variable {σ α β : Type}

@[simp] theorem pure_apply (a : α) (s : σ) : (pure a : StateM σ α) s = (a, s) := rfl

@[simp] theorem bind_apply (x : StateM σ α) (f : α → StateM σ β) (s : σ) :
    (x >>= f) s = f (x s).1 (x s).2 := rfl

@[simp] theorem map_apply (g : α → β) (x : StateM σ α) (s : σ) :
    (g <$> x) s = (g (x s).1, (x s).2) := rfl

end StateM

namespace List

variable {ε α β : Type} {f : α → Except ε β}

/-- All steps succeed, each with its own result. -/
theorem mapM_eq_ok_iff {xs : List α} {ys : List β} :
    xs.mapM f = .ok ys ↔ Forall₂ (fun x y => f x = .ok y) xs ys := by
  induction xs generalizing ys with
  | nil =>
    rw [forall₂_nil_left_iff]
    exact ⟨fun h => (Except.ok.inj h).symm, fun h => h ▸ rfl⟩
  | cons x rest ih =>
    simp only [mapM_cons, Except.bind_eq_ok_iff, ih, forall₂_cons_left_iff]
    constructor
    · rintro ⟨y, hy, ys', hys', h⟩
      exact ⟨y, ys', hy, hys', (Except.ok.inj h).symm⟩
    · rintro ⟨y, ys', hy, hys', rfl⟩
      exact ⟨y, hy, ys', hys', rfl⟩

/-- A sequence succeeds if each of its steps does. -/
theorem exists_mapM_eq_ok_iff {xs : List α} :
    (∃ ys, xs.mapM f = .ok ys) ↔ ∀ x ∈ xs, ∃ y, f x = .ok y := by
  simp only [mapM_eq_ok_iff]
  induction xs with
  | nil => simp
  | cons x rest ih =>
    simp only [forall_mem_cons, ← ih, forall₂_cons_left_iff]
    constructor
    · rintro ⟨_, y, ys, hy, hys, rfl⟩
      exact ⟨⟨y, hy⟩, ys, hys⟩
    · rintro ⟨⟨y, hy⟩, ys, hys⟩
      exact ⟨y :: ys, y, ys, hy, hys, rfl⟩

/-- Every result comes from a step. -/
theorem exists_of_mem_mapM {xs : List α} {ys : List β} {y : β} (h : xs.mapM f = .ok ys)
    (hy : y ∈ ys) : ∃ x ∈ xs, f x = .ok y := by
  rw [mapM_eq_ok_iff] at h
  induction h with
  | nil => cases hy
  | cons hx _ ih =>
    rcases mem_cons.1 hy with rfl | hy
    · exact ⟨_, mem_cons_self, hx⟩
    · obtain ⟨x, hmem, hx⟩ := ih hy
      exact ⟨x, mem_cons_of_mem _ hmem, hx⟩

/-- Every step has its result among the results. -/
theorem exists_mem_of_mapM {xs : List α} {ys : List β} {x : α} (h : xs.mapM f = .ok ys)
    (hx : x ∈ xs) : ∃ y ∈ ys, f x = .ok y := by
  rw [mapM_eq_ok_iff] at h
  induction h with
  | nil => cases hx
  | cons hy _ ih =>
    rcases mem_cons.1 hx with rfl | hx
    · exact ⟨_, mem_cons_self, hy⟩
    · obtain ⟨y, hmem, hy⟩ := ih hx
      exact ⟨y, mem_cons_of_mem _ hmem, hy⟩

/-- The first step that fails gives the error. -/
theorem mapM_eq_error_iff {xs : List α} {e : ε} :
    xs.mapM f = .error e ↔ ∃ before x after, xs = before ++ x :: after ∧
      (∀ b ∈ before, ∃ y, f b = .ok y) ∧ f x = .error e := by
  induction xs with
  | nil => simp [pure, Except.pure]
  | cons first rest ih =>
    have hpure : ∀ y, (do let ys ← rest.mapM f; pure (y :: ys)) = .error e ↔
        rest.mapM f = .error e := by
      intro y
      simp [Except.bind_eq_error_iff, pure, Except.pure]
    simp only [mapM_cons, Except.bind_eq_error_iff (x := f first), hpure, ih]
    constructor
    · rintro (h | ⟨y, hy, before, x, after, rfl, hbefore, hx⟩)
      · exact ⟨[], first, rest, rfl, by simp, h⟩
      · refine ⟨first :: before, x, after, rfl, fun b hb => ?_, hx⟩
        rcases mem_cons.1 hb with rfl | hb
        · exact ⟨y, hy⟩
        · exact hbefore b hb
    · rintro ⟨before, x, after, hsplit, hbefore, hx⟩
      cases before with
      | nil =>
        obtain ⟨rfl, rfl⟩ := cons.inj hsplit
        exact .inl hx
      | cons b before =>
        obtain ⟨rfl, rfl⟩ := cons.inj hsplit
        obtain ⟨y, hy⟩ := hbefore first mem_cons_self
        exact .inr ⟨y, hy, before, x, after, rfl, fun b hb => hbefore b (mem_cons_of_mem _ hb), hx⟩

/-- The first step that fails ends a run of steps. -/
theorem foldlM_eq_error_iff {σ : Type} {f : σ → α → Except ε σ} {xs : List α} {s : σ} {e : ε} :
    xs.foldlM f s = .error e ↔ ∃ before x after s', xs = before ++ x :: after ∧
      before.foldlM f s = .ok s' ∧ f s' x = .error e := by
  induction xs generalizing s with
  | nil => simp [pure, Except.pure]
  | cons first rest ih =>
    rw [foldlM_cons, Except.bind_eq_error_iff]
    simp only [ih]
    constructor
    · rintro (h | ⟨next, hnext, before, x, after, s', rfl, hbefore, hx⟩)
      · exact ⟨[], first, rest, s, rfl, rfl, h⟩
      · refine ⟨first :: before, x, after, s', rfl, ?_, hx⟩
        rw [foldlM_cons, Except.bind_eq_ok_iff]
        exact ⟨next, hnext, hbefore⟩
    · rintro ⟨before, x, after, s', hsplit, hbefore, hx⟩
      cases before with
      | nil =>
        obtain ⟨rfl, rfl⟩ := cons.inj hsplit
        obtain rfl := Except.ok.inj hbefore
        exact .inl hx
      | cons b before =>
        obtain ⟨rfl, rfl⟩ := cons.inj hsplit
        rw [foldlM_cons, Except.bind_eq_ok_iff] at hbefore
        obtain ⟨next, hnext, hbefore⟩ := hbefore
        exact .inr ⟨next, hnext, before, x, after, s', rfl, hbefore, hx⟩

/-- A run of steps that succeed is followed by any run that can follow each step. -/
theorem foldlM_simulates {σ τ : Type} {f : σ → α → Except ε σ} {g : τ → α → Except ε τ}
    {R : σ → τ → Prop} (hstep : ∀ s s' x next, R s s' → f s x = .ok next →
      ∃ next', g s' x = .ok next' ∧ R next next') {xs : List α} {s last : σ} {s' : τ}
    (h : R s s') (hf : xs.foldlM f s = .ok last) :
    ∃ last', xs.foldlM g s' = .ok last' ∧ R last last' := by
  induction xs generalizing s s' with
  | nil =>
    obtain rfl := Except.ok.inj hf
    exact ⟨s', rfl, h⟩
  | cons x rest ih =>
    obtain ⟨next, hx, hrest⟩ := Except.bind_eq_ok_iff.1 hf
    obtain ⟨next', hx', hnext⟩ := hstep s s' x next h hx
    rw [foldlM_cons, hx']
    exact ih hnext hrest

end List
