import SchemaCompiler.FileTree.Basic
import SchemaCompiler.Glob.Search
import SchemaCompiler.Proofs.Outcome

/-!
# Computations that only read

A computation that is put together from steps that leave the file tree alone leaves it alone itself,
whether or not it fails on the way.  The search for files is one (`readOnly_search`).
-/

namespace SchemaCompiler

open FileSystem

/-- The tree is the same after a computation. -/
def ReadOnly {α : Type} (x : StateM FileTree α) : Prop :=
  ∀ t, (x t).2 = t

/-- What a computation that starts with a tree gives. -/
def FileTree.answer {α : Type} (t : FileTree) (x : StateM FileTree α) : α :=
  (x t).1

namespace ReadOnly

variable {α β ε : Type}

theorem pure (a : α) : ReadOnly (Pure.pure a : StateM FileTree α) := fun _ => rfl

theorem bind {x : StateM FileTree α} {f : α → StateM FileTree β} (hx : ReadOnly x)
    (hf : ∀ a, ReadOnly (f a)) : ReadOnly (x >>= f) := by
  intro t
  rw [StateM.bind_apply, hf, hx]

theorem map {x : StateM FileTree α} (g : α → β) (hx : ReadOnly x) : ReadOnly (g <$> x) := hx

/-- The answer and the tree are all that there is to a computation that only reads. -/
theorem apply_eq {x : StateM FileTree α} (hx : ReadOnly x) (t : FileTree) : x t = (t.answer x, t) :=
  Prod.ext rfl (hx t)

theorem answer_bind {x : StateM FileTree α} (hx : ReadOnly x) (f : α → StateM FileTree β)
    (t : FileTree) : t.answer (x >>= f) = t.answer (f (t.answer x)) := by
  rw [FileTree.answer, StateM.bind_apply, hx t]
  rfl

theorem read (path : String) : ReadOnly (FileSystem.read path) := fun _ => rfl

/-! ### Computations that may fail -/

theorem throw (e : ε) : ReadOnly (MonadExcept.throw e : ExceptT ε (StateM FileTree) α).run :=
  fun _ => rfl

theorem exceptPure (a : α) : ReadOnly (Pure.pure a : ExceptT ε (StateM FileTree) α).run :=
  fun _ => rfl

theorem exceptBind {x : ExceptT ε (StateM FileTree) α} {f : α → ExceptT ε (StateM FileTree) β}
    (hx : ReadOnly x.run) (hf : ∀ a, ReadOnly (f a).run) : ReadOnly (x >>= f).run := by
  rw [ExceptT.run_bind]
  refine hx.bind fun r => ?_
  cases r with
  | ok a => exact hf a
  | error e => exact .pure _

theorem exceptMap {x : ExceptT ε (StateM FileTree) α} (g : α → β) (hx : ReadOnly x.run) :
    ReadOnly (g <$> x).run := by
  rw [ExceptT.run_map]
  exact hx.map _

theorem exceptKind? (path : String) :
    ReadOnly (FileSystem.kind? path : ExceptT ε (StateM FileTree) (Option FileKind)).run :=
  fun _ => rfl

theorem exceptList (path : String) :
    ReadOnly (FileSystem.list path : ExceptT ε (StateM FileTree) _).run :=
  fun _ => rfl

theorem exceptMapM {f : α → ExceptT ε (StateM FileTree) β} (hf : ∀ a, ReadOnly (f a).run)
    (as : List α) : ReadOnly (as.mapM f).run := by
  induction as with
  | nil => exact .exceptPure []
  | cons a rest ih =>
    rw [List.mapM_cons]
    exact .exceptBind (hf a) fun b => .exceptBind ih fun bs => .exceptPure (b :: bs)

end ReadOnly

/-! ### The search for files -/

namespace Glob

theorem readOnly_candidateAt (path : String) :
    ReadOnly (candidateAt path : ExceptT GlobError (StateM FileTree) Candidate).run :=
  .exceptBind (.exceptKind? path) fun _ => .exceptPure _

theorem readOnly_children (directory : Candidate) (patterns : List Pattern) :
    ReadOnly (children directory patterns : ExceptT GlobError (StateM FileTree) _).run := by
  induction patterns generalizing directory with
  | nil => exact .exceptPure _
  | cons p ps ih =>
    rw [children]
    split
    · -- Both ways to know whether the name is there go on in the same way.
      extract_lets path next
      have hnext : ∀ known, ReadOnly (next known).run := by
        intro known
        dsimp only [next]
        split
        · exact .exceptBind (readOnly_candidateAt _) fun candidate => ih candidate
        · exact .exceptPure _
      split
      · exact .exceptBind (.exceptPure _) hnext
      · exact .exceptBind (.exceptMap _ (.exceptKind? _)) hnext
    · split
      · exact .exceptPure _
      · refine .exceptBind (.exceptList _) fun found => ?_
        cases found with
        | error e => exact .throw _
        | ok found =>
          have hspecial : ∀ name, ReadOnly (do
              if p.startsWithDot && p.matches name then
                children (← candidateAt (Path.join directory.path name)) ps
              else return [] : ExceptT GlobError (StateM FileTree) (List Pending)).run := by
            intro name
            split
            · exact .exceptBind (readOnly_candidateAt _) fun candidate => ih candidate
            · exact .exceptPure _
          exact .exceptBind (hspecial "..") fun _ =>
            .exceptBind (hspecial ".") fun _ => .exceptPure _

section

variable {results : Pending → ExceptT GlobError (StateM FileTree) (List String)}
  (hresults : ∀ pending, ReadOnly (results pending).run)
include hresults

theorem readOnly_inside (directory : Candidate) (patterns : List Pattern) :
    ReadOnly (inside results directory patterns).run :=
  .exceptBind (readOnly_children directory patterns) fun found =>
    .exceptBind (.exceptMapM hresults found) fun _ => .exceptPure _

theorem readOnly_byName (onlyDirectories : Bool) (candidate : Candidate)
    (patterns : List Pattern) :
    ReadOnly (byName onlyDirectories results candidate patterns).run := by
  unfold byName
  cases patterns with
  | nil => exact .exceptPure _
  | cons p ps =>
    dsimp only
    split
    · exact .exceptPure _
    · split
      · exact .exceptPure _
      · exact readOnly_inside hresults candidate ps

end

theorem readOnly_resultsUpTo (onlyDirectories : Bool) (fuel : Nat) (pending : Pending) :
    ReadOnly (resultsUpTo onlyDirectories fuel pending :
      ExceptT GlobError (StateM FileTree) (List String)).run := by
  induction fuel generalizing pending with
  | zero => exact .exceptPure _
  | succ fuel ih =>
    obtain ⟨candidate, patterns⟩ := pending
    rw [resultsUpTo]
    split
    · exact readOnly_byName ih onlyDirectories candidate _
    · next depth tail rest _ =>
      -- The paths further down are added to whatever the candidate itself gives.
      extract_lets next
      have hnext : ∀ own, ReadOnly (next own).run := by
        intro own
        dsimp only [next]
        split
        · exact .exceptBind (readOnly_inside ih _ _) fun _ => .exceptPure _
        · exact .exceptBind (.exceptPure _) fun _ => .exceptPure _
      split
      · exact .exceptBind (.exceptPure _) hnext
      · exact .exceptBind (readOnly_byName ih onlyDirectories candidate _) hnext

theorem readOnly_parsed (text : String) :
    ReadOnly (parsed text : ExceptT GlobError (StateM FileTree) Pattern).run := by
  unfold parsed
  split
  · exact .exceptPure _
  · exact .throw _

/-- **A search leaves the files alone.** -/
theorem readOnly_search (pattern : String) :
    ReadOnly (search pattern : ExceptT GlobError (StateM FileTree) (List String)).run := by
  refine .exceptBind (readOnly_parsed pattern) fun _ =>
    .exceptBind (.exceptMapM readOnly_parsed _) fun patterns => ?_
  split
  · exact .exceptPure _
  · exact .exceptBind (readOnly_candidateAt _) fun start =>
      readOnly_inside (readOnly_resultsUpTo _ _) start patterns

end Glob

end SchemaCompiler
