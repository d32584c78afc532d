import SchemaCompiler.FileTree.Basic
import SchemaCompiler.Proofs.Outcome

/-!
# Places in a file tree

A place is a list of names that lead down from the root.  `FileTree.entryAt?` says what stands at
each place, a file with its content or a directory, and says it without what is in a directory: all
that is known about the operations is said through this view.

Paths are another matter, since they may start at the working directory, go up again and go over the
same place twice.  `FileTree.locate` gives the place that a path leads to.  What a path leads to is
what stands there (`read_eq_ok_iff`, `kind?_eq_some_iff`), and a path keeps leading to its place in
every tree that still has all the files and directories there were (`Keeps.locate`).
-/

namespace SchemaCompiler

/-! ### Nodes -/

/-- What stands at a place, apart from what is in it. -/
inductive Entry where
  | file (content : ByteArray)
  | directory

/-- Whether this is a file or a directory. -/
def Entry.kind : Entry → FileKind
  | file _ => .file
  | directory => .directory

namespace Node

/-- A node apart from what is in it. -/
def entry : Node → Entry
  | file content => .file content
  | directory _ => .directory

theorem kind_entry (n : Node) : n.entry.kind = n.kind := by
  cases n <;> rfl

/-- The node that names lead to. -/
def at? : Node → List String → Option Node
  | n, [] => some n
  | n, name :: rest => (n.entries.get? name).bind fun child => child.at? rest

theorem at?_cons (n : Node) (name : String) (rest : List String) :
    n.at? (name :: rest) = (n.entries.get? name).bind fun child => child.at? rest := rfl

theorem at?_concat (n : Node) (names : List String) (name : String) :
    n.at? (names ++ [name]) = (n.at? names).bind fun m => m.entries.get? name := by
  induction names generalizing n with
  | nil => simp [at?]
  | cons first rest ih =>
    rw [List.cons_append, at?_cons, at?_cons, Option.bind_assoc]
    simp only [ih]

/-- Nothing can be found below a node with nothing in it. -/
theorem at?_eq_none_of_entries {n : Node} (h : n.entries = []) (name : String)
    (rest : List String) : n.at? (name :: rest) = none := by
  rw [at?_cons, h]
  rfl

/-- Below a directory, putting a node is putting it into the entries. -/
theorem put_child {es : Entries Node} {name : String} {child : Node}
    (h : es.get? name = some child) (rest : List String) (new : Node) :
    (directory es).put (name :: rest) new = directory (es.insert name (child.put rest new)) := by
  rw [put]
  exact h

theorem put_entry (es : Entries Node) (name : String) (new : Node) :
    (directory es).put [name] new = directory (es.insert name new) := by
  cases h : es.get? name with
  | none => simp only [put, h]
  | some child => rw [put_child h, put]

/-- A node with nothing in it, put into a directory where there is nothing or another such node, is
all that changes. -/
theorem entry_at?_put {root new : Node} {names : List String} {name : String} {es : Entries Node}
    (hdirectory : root.at? names = some (directory es))
    (hold : ∀ old, es.get? name = some old → old.entries = []) (hnew : new.entries = [])
    (place : List String) :
    ((root.put (names ++ [name]) new).at? place).map entry =
      if place = names ++ [name] then some new.entry else (root.at? place).map entry := by
  induction names generalizing root place with
  | nil =>
    obtain rfl : root = directory es := Option.some.inj hdirectory
    rw [List.nil_append, put_entry]
    cases place with
    | nil => rfl
    | cons first rest =>
      rw [at?_cons, at?_cons]
      simp only [entries, Entries.get?_insert]
      by_cases hfirst : first = name
      · subst hfirst
        rw [if_pos rfl, Option.bind_some]
        cases rest with
        | nil => simp [at?]
        | cons second rest =>
          -- Below the new node there is nothing, and nothing was below the old one.
          have hbelow : (es.get? first).bind (fun child => child.at? (second :: rest)) = none := by
            cases hget : es.get? first with
            | none => rfl
            | some old => exact at?_eq_none_of_entries (hold old hget) second rest
          rw [at?_eq_none_of_entries hnew, hbelow]
          simp
      · simp [hfirst]
  | cons n ns ih =>
    cases root with
    | file content => simp [at?, entries, Entries.get?] at hdirectory
    | directory below =>
      obtain ⟨child, hchild, hbelow⟩ := Option.bind_eq_some_iff.1 hdirectory
      have hchild : Entries.get? below n = some child := hchild
      rw [List.cons_append, put_child hchild]
      cases place with
      | nil => rfl
      | cons first rest =>
        rw [at?_cons, at?_cons]
        simp only [entries, Entries.get?_insert]
        by_cases hfirst : first = n
        · subst hfirst
          rw [if_pos rfl, Option.bind_some, ih hbelow, hchild, Option.bind_some]
          simp
        · simp [hfirst]

end Node

namespace FileTree

variable {t t' : FileTree} {trail trail' next : Trail} {path part : String}
  {parts place : List String}

/-- What stands at a place. -/
def entryAt? (t : FileTree) (place : List String) : Option Entry :=
  (t.root.at? place).map Node.entry

/-! ### Ways -/

/-- Every node on a way is what the directory before it has under its name. -/
inductive IsTrail (t : FileTree) : Trail → Prop
  | root : IsTrail t []
  | down {trail : Trail} {name : String} {node : Node} (h : IsTrail t trail)
      (hnode : (t.last trail).entries.get? name = some node) : IsTrail t ((name, node) :: trail)

theorem names_cons (name : String) (node : Node) (trail : Trail) :
    Trail.names ((name, node) :: trail) = trail.names ++ [name] := by
  simp [Trail.names]

theorem names_tail (trail : Trail) : Trail.names trail.tail = trail.names.dropLast := by
  cases trail with
  | nil => rfl
  | cons step rest => rw [names_cons, List.dropLast_concat, List.tail_cons]

theorem IsTrail.tail (h : t.IsTrail trail) : t.IsTrail trail.tail := by
  cases h with
  | root => exact .root
  | down h _ => exact h

/-- A way ends at the place that its names lead to. -/
theorem IsTrail.at? (h : t.IsTrail trail) : t.root.at? trail.names = some (t.last trail) := by
  induction h with
  | root => rfl
  | down _ hnode ih =>
    rw [names_cons, Node.at?_concat, ih]
    exact hnode

theorem IsTrail.entryAt? (h : t.IsTrail trail) :
    t.entryAt? trail.names = some (t.last trail).entry := by
  rw [FileTree.entryAt?, h.at?, Option.map_some]

theorem directoryAt_eq_ok_iff {entries : Entries Node} :
    t.directoryAt trail = .ok entries ↔ t.last trail = .directory entries := by
  unfold directoryAt
  cases t.last trail <;> simp

theorem child_eq_ok_iff {entries : Entries Node} {name : String} {found : Option Node} :
    child entries name = .ok found ↔
      name.utf8ByteSize ≤ maxNameBytes ∧ entries.get? name = found := by
  unfold child
  by_cases h : maxNameBytes < name.utf8ByteSize
  · simp [h, Nat.not_le.2 h]
  · simp [h, Nat.le_of_not_lt h]

theorem isName_iff : isName part = true ↔ part ≠ "" ∧ part ≠ "." ∧ part ≠ ".." := by
  simp [isName, and_assoc]

/-- One part of a path goes nowhere, up or down, from a directory. -/
theorem enter_eq_ok_iff : t.enter trail part = .ok next ↔
    ∃ entries : Entries Node, t.last trail = .directory entries ∧
      (((part = "" ∨ part = ".") ∧ next = trail) ∨ (part = ".." ∧ next = trail.tail) ∨
        (isName part ∧ part.utf8ByteSize ≤ maxNameBytes ∧
          ∃ node, entries.get? part = some node ∧ next = (part, node) :: trail)) := by
  rw [enter, Except.bind_eq_ok_iff]
  simp only [directoryAt_eq_ok_iff]
  refine exists_congr fun entries => and_congr_right fun _ => ?_
  by_cases hblank : part = "" ∨ part = "."
  · rw [if_pos hblank]
    refine ⟨fun h => .inl ⟨hblank, (Except.ok.inj h).symm⟩, ?_⟩
    rintro (⟨_, rfl⟩ | ⟨rfl, _⟩ | ⟨hname, _⟩)
    · rfl
    · exact absurd hblank (by decide)
    · rw [isName_iff] at hname
      exact absurd hblank (not_or.2 ⟨hname.1, hname.2.1⟩)
  · rw [if_neg hblank]
    by_cases hup : part = ".."
    · rw [if_pos hup]
      refine ⟨fun h => .inr (.inl ⟨hup, (Except.ok.inj h).symm⟩), ?_⟩
      rintro (⟨h, _⟩ | ⟨_, rfl⟩ | ⟨hname, _⟩)
      · exact absurd h hblank
      · rfl
      · exact absurd hup (isName_iff.1 hname).2.2
    · rw [if_neg hup, Except.bind_eq_ok_iff]
      simp only [child_eq_ok_iff]
      constructor
      · rintro ⟨found, ⟨hsize, rfl⟩, h⟩
        have hname := isName_iff.2 ⟨(not_or.1 hblank).1, (not_or.1 hblank).2, hup⟩
        cases hget : entries.get? part with
        | none => simp [hget] at h
        | some node =>
          rw [hget] at h
          exact .inr (.inr ⟨hname, hsize, node, rfl, (Except.ok.inj h).symm⟩)
      · rintro (⟨h, _⟩ | ⟨h, _⟩ | ⟨_, hsize, node, hget, rfl⟩)
        · exact absurd h hblank
        · exact absurd h hup
        · exact ⟨some node, ⟨hsize, hget⟩, rfl⟩

theorem descend_eq_ok_iff {name : String} : t.descend trail name = .ok next ↔
    ∃ node, (t.last trail).entries.get? name = some node ∧ next = (name, node) :: trail := by
  unfold descend
  cases (t.last trail).entries.get? name <;> simp [eq_comm]

/-! ### The same way in another tree -/

/-- Everything that was there still is, files as files and directories as directories. -/
structure Keeps (t t' : FileTree) : Prop where
  home : t'.home = t.home
  kinds : ∀ place e, t.entryAt? place = some e →
    ∃ e', t'.entryAt? place = some e' ∧ e'.kind = e.kind

theorem Keeps.refl (t : FileTree) : t.Keeps t :=
  ⟨rfl, fun _ e h => ⟨e, h, rfl⟩⟩

/-- Two ways by the same names. -/
structure SameWay (t t' : FileTree) (trail trail' : Trail) : Prop where
  isTrail : t.IsTrail trail
  isTrail' : t'.IsTrail trail'
  names : trail'.names = trail.names

section

variable (hkeeps : t.Keeps t')
include hkeeps

theorem SameWay.kind_last (h : t.SameWay t' trail trail') :
    (t'.last trail').kind = (t.last trail).kind := by
  obtain ⟨e', he', hkind⟩ := hkeeps.kinds _ _ h.isTrail.entryAt?
  rw [← h.names, h.isTrail'.entryAt?] at he'
  obtain rfl := Option.some.inj he'
  rw [← Node.kind_entry, hkind, Node.kind_entry]

/-- One name further down, the ways are still the same. -/
theorem SameWay.down {name : String} {node : Node} (h : t.SameWay t' trail trail')
    (hnode : (t.last trail).entries.get? name = some node) :
    ∃ node', (t'.last trail').entries.get? name = some node' ∧
      t.SameWay t' ((name, node) :: trail) ((name, node') :: trail') := by
  obtain ⟨e', he', _⟩ := hkeeps.kinds _ _ (h.isTrail.down hnode).entryAt?
  rw [names_cons, ← h.names] at he'
  obtain ⟨node', hnode', _⟩ := Option.map_eq_some_iff.1 he'
  rw [Node.at?_concat, h.isTrail'.at?, Option.bind_some] at hnode'
  refine ⟨node', hnode', h.isTrail.down hnode, h.isTrail'.down hnode', ?_⟩
  rw [names_cons, names_cons, h.names]

theorem SameWay.descend {name : String} (h : t.SameWay t' trail trail')
    (hnext : t.descend trail name = .ok next) :
    ∃ next', t'.descend trail' name = .ok next' ∧ t.SameWay t' next next' := by
  obtain ⟨node, hnode, rfl⟩ := descend_eq_ok_iff.1 hnext
  obtain ⟨node', hnode', hway⟩ := h.down hkeeps hnode
  exact ⟨_, descend_eq_ok_iff.2 ⟨node', hnode', rfl⟩, hway⟩

theorem SameWay.enter (h : t.SameWay t' trail trail') (hnext : t.enter trail part = .ok next) :
    ∃ next', t'.enter trail' part = .ok next' ∧ t.SameWay t' next next' := by
  obtain ⟨entries, hentries, hcases⟩ := enter_eq_ok_iff.1 hnext
  -- The other way is at a directory as well.
  have hkind := h.kind_last hkeeps
  rw [hentries] at hkind
  obtain ⟨entries', hentries'⟩ : ∃ entries', t'.last trail' = .directory entries' := by
    cases hlast : t'.last trail' with
    | file content => simp [hlast, Node.kind] at hkind
    | directory entries' => exact ⟨entries', rfl⟩
  simp only [enter_eq_ok_iff]
  rcases hcases with ⟨hblank, rfl⟩ | ⟨hup, rfl⟩ | ⟨hname, hsize, node, hnode, rfl⟩
  · exact ⟨trail', ⟨entries', hentries', .inl ⟨hblank, rfl⟩⟩, h⟩
  · refine ⟨trail'.tail, ⟨entries', hentries', .inr (.inl ⟨hup, rfl⟩)⟩, h.isTrail.tail,
      h.isTrail'.tail, ?_⟩
    rw [names_tail, names_tail, h.names]
  · have hdown : (t.last trail).entries.get? part = some node := by
      rw [hentries]
      exact hnode
    obtain ⟨node', hnode', hway⟩ := h.down hkeeps hdown
    rw [hentries'] at hnode'
    exact ⟨_, ⟨entries', hentries', .inr (.inr ⟨hname, hsize, node', hnode', rfl⟩)⟩, hway⟩

/-- The parts of a path lead to the same place. -/
theorem Keeps.follow (hfollow : t.follow path parts = .ok trail) :
    ∃ trail', t'.follow path parts = .ok trail' ∧ t.SameWay t' trail trail' := by
  obtain ⟨first, hfirst, hparts⟩ := Except.bind_eq_ok_iff.1 hfollow
  obtain ⟨first', hfirst', hway⟩ : ∃ first', t'.start path = .ok first' ∧
      t.SameWay t' first first' := by
    have hroot : t.SameWay t' [] [] := ⟨.root, .root, rfl⟩
    unfold start at *
    split at hfirst
    · obtain rfl := Except.ok.inj hfirst
      exact ⟨[], by simp [*], hroot⟩
    · rw [if_neg (by assumption), homeTrail, hkeeps.home]
      exact List.foldlM_simulates (fun _ _ _ _ h => h.descend hkeeps) hroot hfirst
  obtain ⟨trail', htrail', hway⟩ :=
    List.foldlM_simulates (fun _ _ _ _ h => h.enter hkeeps) hway hparts
  refine ⟨trail', ?_, hway⟩
  rw [FileTree.follow, hfirst']
  exact htrail'

end

theorem isTrail_of_follow (h : t.follow path parts = .ok trail) : t.IsTrail trail := by
  obtain ⟨_, _, hway⟩ := (Keeps.refl t).follow h
  exact hway.isTrail

/-! ### Where paths lead -/

/-- The place that a path leads to. -/
def locate (t : FileTree) (path : String) : Except OsError (List String) := do
  checkPath path
  return (← t.follow path (Path.parts path)).names

theorem locate_eq_ok_iff : t.locate path = .ok place ↔ checkPath path = .ok () ∧
    ∃ trail, t.follow path (Path.parts path) = .ok trail ∧ trail.names = place := by
  simp only [locate, Except.bind_eq_ok_iff]
  constructor
  · rintro ⟨_, hcheck, trail, htrail, h⟩
    exact ⟨hcheck, trail, htrail, Except.ok.inj h⟩
  · rintro ⟨hcheck, trail, htrail, rfl⟩
    exact ⟨(), hcheck, trail, htrail, rfl⟩

theorem Keeps.locate (hkeeps : t.Keeps t') (h : t.locate path = .ok place) :
    t'.locate path = .ok place := by
  obtain ⟨hcheck, trail, htrail, rfl⟩ := locate_eq_ok_iff.1 h
  obtain ⟨trail', htrail', hway⟩ := hkeeps.follow htrail
  exact locate_eq_ok_iff.2 ⟨hcheck, trail', htrail', hway.names⟩

/-- A path leads to what stands at its place. -/
theorem lookup_of_locate (h : t.locate path = .ok place) :
    ∃ node, t.lookup path = .ok node ∧ t.entryAt? place = some node.entry := by
  obtain ⟨hcheck, trail, htrail, rfl⟩ := locate_eq_ok_iff.1 h
  refine ⟨t.last trail, ?_, (isTrail_of_follow htrail).entryAt?⟩
  rw [lookup, hcheck, htrail]
  rfl

/-- What a path leads to stands at a place. -/
theorem locate_of_lookup {node : Node} (h : t.lookup path = .ok node) :
    ∃ place, t.locate path = .ok place ∧ t.entryAt? place = some node.entry := by
  obtain ⟨_, hcheck, h⟩ := Except.bind_eq_ok_iff.1 h
  obtain ⟨trail, htrail, h⟩ := Except.bind_eq_ok_iff.1 h
  obtain rfl := Except.ok.inj h
  exact ⟨trail.names, locate_eq_ok_iff.2 ⟨hcheck, trail, htrail, rfl⟩,
    (isTrail_of_follow htrail).entryAt?⟩

theorem read_eq_ok_iff {content : ByteArray} : t.read path = .ok content ↔
    ∃ place, t.locate path = .ok place ∧ t.entryAt? place = some (.file content) := by
  constructor
  · intro h
    obtain ⟨node, hlookup, h⟩ := Except.bind_eq_ok_iff.1 h
    obtain ⟨place, hplace, hentry⟩ := locate_of_lookup hlookup
    cases node with
    | file found =>
      obtain rfl := Except.ok.inj h
      exact ⟨place, hplace, hentry⟩
    | directory _ => cases h
  · rintro ⟨place, hplace, hfile⟩
    obtain ⟨node, hlookup, hnode⟩ := lookup_of_locate hplace
    rw [hfile] at hnode
    cases node with
    | file found =>
      obtain rfl : content = found := by simpa [Node.entry] using hnode
      rw [read, hlookup]
      rfl
    | directory _ => simp [Node.entry] at hnode

theorem kind?_eq_some_iff {k : FileKind} : t.kind? path = some k ↔
    ∃ place e, t.locate path = .ok place ∧ t.entryAt? place = some e ∧ e.kind = k := by
  constructor
  · intro h
    unfold kind? at h
    split at h
    · next node hlookup =>
      obtain ⟨place, hplace, hentry⟩ := locate_of_lookup hlookup
      exact ⟨place, node.entry, hplace, hentry, (Node.kind_entry node).trans (Option.some.inj h)⟩
    · cases h
  · rintro ⟨place, e, hplace, he, rfl⟩
    obtain ⟨node, hlookup, hnode⟩ := lookup_of_locate hplace
    rw [he] at hnode
    obtain rfl := Option.some.inj hnode
    simp only [kind?, hlookup, Node.kind_entry]

/-- What was a file or a directory still is. -/
theorem Keeps.kind? {k : FileKind} (hkeeps : t.Keeps t') (h : t.kind? path = some k) :
    t'.kind? path = some k := by
  obtain ⟨place, e, hplace, he, rfl⟩ := kind?_eq_some_iff.1 h
  obtain ⟨e', he', hkind⟩ := hkeeps.kinds place e he
  exact kind?_eq_some_iff.2 ⟨place, e', hkeeps.locate hplace, he', hkind⟩

end FileTree

end SchemaCompiler
