import Mathlib.Data.List.TakeWhile
import Mathlib.Logic.Relation
import SchemaCompiler.Proofs.FileTree.Places

/-!
# What operations change

Writing a file and making a directory each change a single place, the one that the path then leads
to (`puts_of_write`, `puts_of_makeDirectory`).  Making a directory with all that it needs adds
directories and changes nothing else (`adds_of_makeDirectories`).
-/

namespace SchemaCompiler.FileTree

open Relation

variable {t t' t'' : FileTree} {trail : Trail} {path name : String} {parts place : List String}
  {entries : Entries Node} {new : Node} {e : Entry}

/-! ### One place -/

/-- In `t'` there is `e` at the place that the path leads to, and elsewhere what was there in `t`.
A file comes only where there was a file or nothing, and a directory only where there was none. -/
structure Puts (t t' : FileTree) (path : String) (e : Entry) (place : List String) : Prop where
  home : t'.home = t.home
  leads : t'.locate path = .ok place
  entries : ∀ other, t'.entryAt? other = if other = place then some e else t.entryAt? other
  kind : ∀ old, t.entryAt? place = some old → old.kind = e.kind

theorem Puts.entryAt?_self (h : t.Puts t' path e place) : t'.entryAt? place = some e := by
  rw [h.entries, if_pos rfl]

theorem Puts.entryAt?_of_ne (h : t.Puts t' path e place) {other : List String}
    (hother : other ≠ place) : t'.entryAt? other = t.entryAt? other := by
  rw [h.entries, if_neg hother]

/-- If only a place of the right kind changes, everything is still there. -/
theorem keeps_of_entries (hhome : t'.home = t.home)
    (hentries : ∀ other, t'.entryAt? other = if other = place then some e else t.entryAt? other)
    (hkind : ∀ old, t.entryAt? place = some old → old.kind = e.kind) : t.Keeps t' := by
  refine ⟨hhome, fun other old hold => ?_⟩
  by_cases hother : other = place
  · subst hother
    exact ⟨e, by rw [hentries, if_pos rfl], (hkind old hold).symm⟩
  · exact ⟨old, by rw [hentries, if_neg hother, hold], rfl⟩

theorem Puts.keeps (h : t.Puts t' path e place) : t.Keeps t' :=
  keeps_of_entries h.home h.entries h.kind

/-! ### Paths and their last name -/

/-- The last name of a path is followed by empty parts, and by none unless there is a slash. -/
theorem parts_of_splitLast {before : List String} {slash : Bool}
    (h : splitLast path = (before, name, slash)) (hname : name ≠ "") :
    ∃ blanks, Path.parts path = before ++ name :: blanks ∧ (∀ blank ∈ blanks, blank = "") ∧
      (slash = false → blanks = []) := by
  simp only [splitLast] at h
  have happend := List.takeWhile_append_dropWhile (p := fun part : String => part = "")
    (l := (Path.parts path).reverse)
  split at h
  · simp only [Prod.mk.injEq] at h
    exact absurd h.2.1.symm hname
  · next last rest hdrop =>
    simp only [Prod.mk.injEq] at h
    obtain ⟨rfl, rfl, hslash⟩ := h
    rw [hdrop] at happend
    refine ⟨((Path.parts path).reverse.takeWhile fun part => part = "").reverse, ?_, ?_, ?_⟩
    · have hreverse := congrArg List.reverse happend
      simpa using hreverse.symm
    · intro blank hblank
      simpa using List.mem_takeWhile_imp (List.mem_reverse.1 hblank)
    · intro hfalse
      rw [hfalse] at hslash
      cases htake : (Path.parts path).reverse.takeWhile fun part => part = "" with
      | nil => rfl
      | cons blank blanks =>
        -- The path would then end with an empty part.
        have hmem : blank ∈ (Path.parts path).reverse.takeWhile fun part => part = "" := by
          rw [htake]
          exact List.mem_cons_self
        have hblank : blank = "" := by simpa using List.mem_takeWhile_imp hmem
        rw [htake, hblank] at happend
        rw [← happend] at hslash
        simp at hslash

theorem follow_append {more : List String} (h : t.follow path parts = .ok trail) :
    t.follow path (parts ++ more) = more.foldlM t.enter trail := by
  obtain ⟨first, hfirst, hparts⟩ := Except.bind_eq_ok_iff.1 h
  rw [follow, hfirst]
  show (parts ++ more).foldlM t.enter first = _
  rw [List.foldlM_append, hparts]
  rfl

/-- Empty parts lead nowhere else. -/
theorem foldlM_enter_blanks {blanks : List String} (hblanks : ∀ blank ∈ blanks, blank = "")
    (hdirectory : t.last trail = .directory entries) :
    blanks.foldlM t.enter trail = .ok trail := by
  induction blanks with
  | nil => rfl
  | cons blank rest ih =>
    have hblank : t.enter trail blank = .ok trail := enter_eq_ok_iff.2
      ⟨entries, hdirectory, .inl ⟨.inl (hblanks blank List.mem_cons_self), rfl⟩⟩
    rw [List.foldlM_cons, hblank]
    exact ih fun other hother => hblanks other (List.mem_cons_of_mem _ hother)

/-! ### Putting a node -/

theorem put_entryAt? (htrail : t.IsTrail trail) (hdirectory : t.last trail = .directory entries)
    (hold : ∀ old, entries.get? name = some old → old.entries = []) (hnew : new.entries = [])
    (other : List String) : (t.put trail name new).entryAt? other =
      if other = trail.names ++ [name] then some new.entry else t.entryAt? other :=
  Node.entry_at?_put (htrail.at?.trans (congrArg some hdirectory)) hold hnew other

/-- A node that is put at the end of a path changes the place that the path then leads to. -/
theorem puts_put {before : List String} {slash : Bool} (hcheck : checkPath path = .ok ())
    (hsplit : splitLast path = (before, name, slash)) (hfollow : t.follow path before = .ok trail)
    (hdirectory : t.last trail = .directory entries) (hname : isName name = true)
    (hsize : name.utf8ByteSize ≤ maxNameBytes)
    (hold : ∀ old, entries.get? name = some old → old.entries = [] ∧ old.kind = new.kind)
    (hnew : new.entries = []) (hslash : slash = true → new.kind = .directory) :
    t.Puts (t.put trail name new) path new.entry (trail.names ++ [name]) := by
  have htrail := isTrail_of_follow hfollow
  have hentries := put_entryAt? htrail hdirectory (fun old h => (hold old h).1) hnew
  have hkind : ∀ old, t.entryAt? (trail.names ++ [name]) = some old →
      old.kind = new.entry.kind := by
    intro old h
    obtain ⟨node, hnode, rfl⟩ := Option.map_eq_some_iff.1 h
    rw [Node.at?_concat, htrail.at?, Option.bind_some, hdirectory] at hnode
    rw [Node.kind_entry, Node.kind_entry, (hold node hnode).2]
  have hkeeps : t.Keeps (t.put trail name new) := keeps_of_entries rfl hentries hkind
  refine ⟨rfl, locate_eq_ok_iff.2 ⟨hcheck, ?_⟩, hentries, hkind⟩
  -- The path leads to the directory as before, then to the node, and stays there.
  obtain ⟨trail', htrail', hway⟩ := hkeeps.follow hfollow
  obtain ⟨blanks, hparts, hblanks, hnone⟩ := parts_of_splitLast hsplit (isName_iff.1 hname).1
  have hput := hentries (trail.names ++ [name])
  rw [if_pos rfl, ← hway.names] at hput
  obtain ⟨node, hnode, hentry⟩ := Option.map_eq_some_iff.1 hput
  rw [Node.at?_concat, hway.isTrail'.at?, Option.bind_some] at hnode
  have hlast := hway.kind_last hkeeps
  rw [hdirectory] at hlast
  obtain ⟨entries', hentries'⟩ : ∃ entries', (t.put trail name new).last trail' =
      .directory entries' := by
    cases hlast' : (t.put trail name new).last trail' with
    | file content => simp [hlast', Node.kind] at hlast
    | directory entries' => exact ⟨entries', rfl⟩
  rw [hentries'] at hnode
  have henter : (t.put trail name new).enter trail' name = .ok ((name, node) :: trail') :=
    enter_eq_ok_iff.2 ⟨entries', hentries', .inr (.inr ⟨hname, hsize, node, hnode, rfl⟩)⟩
  refine ⟨(name, node) :: trail', ?_, by rw [names_cons, hway.names]⟩
  rw [hparts, follow_append htrail', List.foldlM_cons, henter]
  show blanks.foldlM _ _ = _
  cases slash with
  | false =>
    rw [hnone rfl]
    rfl
  | true =>
    have hkindnode : node.kind = .directory := by
      rw [← Node.kind_entry, hentry, Node.kind_entry, hslash rfl]
    cases node with
    | file content => simp [Node.kind] at hkindnode
    | directory below => exact foldlM_enter_blanks hblanks rfl

/-- **A file that is written is at the place that its path leads to, and nothing else changes.** -/
theorem puts_of_write {content : ByteArray} (h : t.write path content = .ok t') :
    ∃ place, t.Puts t' path (.file content) place := by
  obtain ⟨_, hcheck, h⟩ := Except.bind_eq_ok_iff.1 h
  rcases hsplit : splitLast path with ⟨before, name, slash⟩
  rw [hsplit] at h
  obtain ⟨trail, hfollow, h⟩ := Except.bind_eq_ok_iff.1 h
  obtain ⟨entries, hdirectory, h⟩ := Except.bind_eq_ok_iff.1 h
  rw [directoryAt_eq_ok_iff] at hdirectory
  split at h
  · cases h
  · next hname =>
    simp only [Bool.or_eq_true, Bool.not_eq_true', not_or, Bool.not_eq_false] at hname
    obtain ⟨found, hfound, h⟩ := Except.bind_eq_ok_iff.1 h
    obtain ⟨hsize, hget⟩ := child_eq_ok_iff.1 hfound
    split at h
    · cases h
    · next hfile =>
      obtain rfl := Except.ok.inj h
      refine ⟨trail.names ++ [name], puts_put hcheck hsplit hfollow
        hdirectory hname.1 hsize (fun old hold => ?_) rfl (fun hslash => absurd hslash hname.2)⟩
      -- What is replaced is no directory, so it is a file.
      cases old with
      | file content' => exact ⟨rfl, rfl⟩
      | directory below => exact absurd (hget.symm.trans hold) (hfile below)

/-- **A directory that is made is at the place that its path leads to, where there was nothing, and
nothing else changes.** -/
theorem puts_of_makeDirectory (h : t.makeDirectory path = .ok t') :
    ∃ place, t.Puts t' path .directory place ∧ t.entryAt? place = none := by
  obtain ⟨_, hcheck, h⟩ := Except.bind_eq_ok_iff.1 h
  rcases hsplit : splitLast path with ⟨before, name, slash⟩
  rw [hsplit] at h
  obtain ⟨trail, hfollow, h⟩ := Except.bind_eq_ok_iff.1 h
  obtain ⟨entries, hdirectory, h⟩ := Except.bind_eq_ok_iff.1 h
  rw [directoryAt_eq_ok_iff] at hdirectory
  split at h
  · cases h
  · next hname =>
    simp only [Bool.not_eq_true', Bool.not_eq_false] at hname
    obtain ⟨found, hfound, h⟩ := Except.bind_eq_ok_iff.1 h
    obtain ⟨hsize, rfl⟩ := child_eq_ok_iff.1 hfound
    split at h
    · cases h
    · next hnone =>
      obtain rfl := Except.ok.inj h
      refine ⟨trail.names ++ [name], puts_put hcheck hsplit hfollow
        hdirectory hname hsize (fun old hold => ?_) rfl fun _ => rfl, ?_⟩
      · rw [hnone] at hold
        cases hold
      · rw [entryAt?, Node.at?_concat, (isTrail_of_follow hfollow).at?, Option.bind_some,
          hdirectory]
        exact congrArg (Option.map Node.entry) hnone

/-! ### More directories -/

/-- In `t'` there is what there is in `t`, and there are directories where there was nothing, at
places that certain paths lead to. -/
structure Adds (t t' : FileTree) (paths : String → Prop) : Prop where
  home : t'.home = t.home
  entries : ∀ place, t'.entryAt? place = t.entryAt? place ∨
    t.entryAt? place = none ∧ t'.entryAt? place = some .directory ∧
      ∃ p, paths p ∧ t'.locate p = .ok place

variable {paths paths' : String → Prop}

theorem Adds.refl (t : FileTree) (paths : String → Prop) : t.Adds t paths :=
  ⟨rfl, fun _ => .inl rfl⟩

theorem Adds.keeps (h : t.Adds t' paths) : t.Keeps t' := by
  refine ⟨h.home, fun place e he => ?_⟩
  rcases h.entries place with hsame | ⟨hnone, _⟩
  · exact ⟨e, hsame.trans he, rfl⟩
  · rw [hnone] at he
    cases he

theorem Adds.mono (h : t.Adds t' paths) (hpaths : ∀ p, paths p → paths' p) :
    t.Adds t' paths' := by
  refine ⟨h.home, fun place => (h.entries place).imp_right ?_⟩
  rintro ⟨hnone, hdirectory, p, hp, hleads⟩
  exact ⟨hnone, hdirectory, p, hpaths p hp, hleads⟩

theorem Adds.trans (h : t.Adds t' paths) (h' : t'.Adds t'' paths) : t.Adds t'' paths := by
  refine ⟨h'.home.trans h.home, fun place => ?_⟩
  rcases h'.entries place with hsame' | ⟨hnone', hnew'⟩
  · rcases h.entries place with hsame | ⟨hnone, hdirectory, p, hp, hleads⟩
    · exact .inl (hsame'.trans hsame)
    · exact .inr ⟨hnone, hsame'.trans hdirectory, p, hp, h'.keeps.locate hleads⟩
  · -- Nothing was there in between, so nothing was there at first.
    rcases h.entries place with hsame | ⟨_, hdirectory, _⟩
    · exact .inr ⟨hsame.symm.trans hnone', hnew'⟩
    · rw [hnone'] at hdirectory
      cases hdirectory

theorem Puts.adds (h : t.Puts t' path .directory place) (hnone : t.entryAt? place = none) :
    t.Adds t' (· = path) := by
  refine ⟨h.home, fun other => ?_⟩
  by_cases hother : other = place
  · subst hother
    exact .inr ⟨hnone, h.entryAt?_self, path, rfl, h.leads⟩
  · exact .inl (h.entryAt?_of_ne hother)

theorem ensureDirectory_run (t : FileTree) (path : String) :
    (FileSystem.ensureDirectory path : StateM FileTree (Except OsError Unit)) t =
      match t.makeDirectory path with
      | .ok made => (.ok (), made)
      | .error e => if t.kind? path = some .directory then (.ok (), t) else (.error e, t) := by
  rw [FileSystem.ensureDirectory, StateM.bind_apply]
  simp only [FileSystem.makeDirectory, change]
  cases t.makeDirectory path with
  | ok made => rfl
  | error e =>
    simp only [StateM.bind_apply, FileSystem.kind?, beq_iff_eq]
    by_cases h : t.kind? path = some .directory <;> simp [h]

/-- Ensuring a directory adds it at most, and on success it is there. -/
theorem adds_of_ensureDirectory {r : Except OsError Unit}
    (h : (FileSystem.ensureDirectory path : StateM FileTree (Except OsError Unit)) t = (r, t')) :
    t.Adds t' (· = path) ∧ (r = .ok () → t'.kind? path = some .directory) := by
  rw [ensureDirectory_run] at h
  cases hmade : t.makeDirectory path with
  | ok made =>
    rw [hmade] at h
    obtain ⟨rfl, rfl⟩ := Prod.mk.inj h
    obtain ⟨place, hputs, hnone⟩ := puts_of_makeDirectory hmade
    exact ⟨hputs.adds hnone, fun _ =>
      kind?_eq_some_iff.2 ⟨place, .directory, hputs.leads, hputs.entryAt?_self, rfl⟩⟩
  | error e =>
    rw [hmade] at h
    dsimp only at h
    split at h
    · next hthere =>
      obtain ⟨rfl, rfl⟩ := Prod.mk.inj h
      exact ⟨.refl t _, fun _ => hthere⟩
    · obtain ⟨rfl, rfl⟩ := Prod.mk.inj h
      exact ⟨.refl t _, fun hok => by cases hok⟩

/-- `upper` is the directory that a path is in, as the path is written. -/
def IsIn (path upper : String) : Prop :=
  Path.parent? path = some upper

theorem adds_of_makeDirectoriesUpTo {fuel : Nat} {r : Except OsError Unit}
    (h : (FileSystem.makeDirectoriesUpTo fuel path : StateM FileTree (Except OsError Unit)) t =
      (r, t')) :
    t.Adds t' (ReflTransGen IsIn path) ∧
      (r = .ok () → fuel = 0 ∨ path = "" ∨ t'.kind? path = some .directory) := by
  induction fuel generalizing t t' path r with
  | zero =>
    obtain ⟨rfl, rfl⟩ := Prod.mk.inj h
    exact ⟨.refl t _, fun _ => .inl rfl⟩
  | succ fuel ih =>
    rw [FileSystem.makeDirectoriesUpTo] at h
    split at h
    · next hempty =>
      obtain ⟨rfl, rfl⟩ := Prod.mk.inj h
      exact ⟨.refl t _, fun _ => .inr (.inl hempty)⟩
    · rw [StateM.bind_apply] at h
      rcases hfirst : (FileSystem.ensureDirectory path : StateM FileTree _) t with ⟨r₁, t₁⟩
      rw [hfirst] at h
      obtain ⟨hadds, hthere⟩ := adds_of_ensureDirectory hfirst
      have hadds : t.Adds t₁ (ReflTransGen IsIn path) := hadds.mono fun p hp => hp ▸ .refl
      dsimp only at h
      generalize hparent : Path.parent? path = upper at h
      split at h
      · -- The directory could not be made without the one that it is in.
        next parent =>
        rw [StateM.bind_apply] at h
        rcases hupper : (FileSystem.makeDirectoriesUpTo fuel parent : StateM FileTree _) t₁ with
          ⟨r₂, t₂⟩
        rw [hupper] at h
        have hadds' := hadds.trans ((ih hupper).1.mono fun p hp => .head hparent hp)
        cases r₂ with
        | error e =>
          obtain ⟨rfl, rfl⟩ := Prod.mk.inj h
          exact ⟨hadds', fun hok => by cases hok⟩
        | ok _ =>
          obtain ⟨hagain, hmade⟩ := adds_of_ensureDirectory h
          have hadds'' := hadds'.trans (hagain.mono fun p hp => hp ▸ .refl)
          exact ⟨hadds'', fun hok => .inr (.inr (hmade hok))⟩
      · obtain ⟨rfl, rfl⟩ := Prod.mk.inj h
        exact ⟨hadds, fun hok => .inr (.inr (hthere hok))⟩

/-- **Making a directory with all that it needs adds directories and changes nothing else.**  The
directories that are new are the one that was asked for and those that it is in, and on success it
is there. -/
theorem adds_of_makeDirectories {r : Except OsError Unit}
    (h : (FileSystem.makeDirectories path : StateM FileTree (Except OsError Unit)) t = (r, t')) :
    t.Adds t' (ReflTransGen IsIn path) ∧
      (r = .ok () → path = "" ∨ t'.kind? path = some .directory) := by
  obtain ⟨hadds, hthere⟩ := adds_of_makeDirectoriesUpTo h
  exact ⟨hadds, fun hok => (hthere hok).resolve_left (Nat.succ_ne_zero _)⟩

end SchemaCompiler.FileTree
