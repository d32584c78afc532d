import SchemaCompiler.CommandLine.Run
import SchemaCompiler.Proofs.FileTree.ReadOnly
import SchemaCompiler.Proofs.Schema.Merge

/-!
# The records of the inputs

What the inputs of a command come to in a file tree: which files an input stands for (`Finds`), what
one file holds (`Loads`), and what all of them hold together (`Holds`).  Loading only reads
(`readOnly_load`).  It gives the records that the inputs give (`load_eq_ok_iff`), or it fails with
what goes wrong first (`load_eq_error_iff`).
-/

namespace SchemaCompiler.Inputs

open List (Forall₂)

variable {t : FileTree} {pointer : Option String} {input path : String}
  {inputs paths : List String} {s s' : Schema} {e : RunError}

/-! ### Files -/

/-- The paths that match a pattern in a tree. -/
def matchesIn (t : FileTree) (pattern : String) : Except Glob.GlobError (List String) :=
  t.answer (Glob.search pattern).run

/-- The files that an input stands for: itself unless it is a pattern, which must match. -/
inductive Finds (t : FileTree) (input : String) : Except RunError (List String) → Prop
  | path (h : Glob.isPattern input = false) : Finds t input (.ok [input])
  | matching {paths : List String} (h : Glob.isPattern input = true)
      (hmatches : matchesIn t input = .ok paths) (hne : paths ≠ []) : Finds t input (.ok paths)
  | badPattern {e : Glob.GlobError} (h : Glob.isPattern input = true)
      (hmatches : matchesIn t input = .error e) : Finds t input (.error (.badPattern e))
  | noMatch (h : Glob.isPattern input = true) (hmatches : matchesIn t input = .ok []) :
      Finds t input (.error (.noMatch input))

theorem readOnly_filesOf (input : String) :
    ReadOnly (filesOf input : StateM FileTree (Except RunError (List String))) := by
  unfold filesOf
  split
  · refine (Glob.readOnly_search input).bind fun r => ?_
    split <;> exact .pure _
  · exact .pure _

theorem finds_answer (t : FileTree) (input : String) :
    Finds t input (t.answer (filesOf input)) := by
  unfold filesOf
  split
  · next h =>
    rw [(Glob.readOnly_search input).answer_bind]
    rcases hmatches : t.answer (Glob.search input).run with e | _ | ⟨path, rest⟩
    · exact .badPattern h hmatches
    · exact .noMatch h hmatches
    · exact .matching h hmatches (List.cons_ne_nil path rest)
  · next h => exact .path (by simpa using h)

theorem Finds.answer {r : Except RunError (List String)} (h : Finds t input r) :
    t.answer (filesOf input) = r := by
  unfold filesOf
  cases h with
  | path h => simp [h, FileTree.answer]
  | badPattern h hmatches =>
    rw [if_pos h, (Glob.readOnly_search input).answer_bind, show t.answer _ = _ from hmatches]
    rfl
  | noMatch h hmatches =>
    rw [if_pos h, (Glob.readOnly_search input).answer_bind, show t.answer _ = _ from hmatches]
    rfl
  | @matching paths h hmatches hne =>
    rw [if_pos h, (Glob.readOnly_search input).answer_bind, show t.answer _ = _ from hmatches]
    cases paths with
    | nil => exact absurd rfl hne
    | cons path rest => rfl

/-- What is found is what is computed. -/
theorem finds_iff {r : Except RunError (List String)} :
    Finds t input r ↔ t.answer (filesOf input) = r :=
  ⟨Finds.answer, fun h => h ▸ finds_answer t input⟩

/-- The files that inputs stand for, one input after the other. -/
def Resolves (t : FileTree) (inputs paths : List String) : Prop :=
  ∃ found, Forall₂ (fun input paths => Finds t input (.ok paths)) inputs found ∧
    paths = found.flatten

theorem readOnly_resolve (inputs : List String) :
    ReadOnly (resolve inputs : StateM FileTree (Except RunError (List String))) := by
  induction inputs with
  | nil => exact .pure _
  | cons input rest ih =>
    refine (readOnly_filesOf input).bind fun r => ?_
    cases r with
    | error e => exact .pure _
    | ok paths =>
      refine ih.bind fun r => ?_
      cases r <;> exact .pure _

theorem answer_resolve (t : FileTree) (inputs : List String) :
    t.answer (resolve inputs) =
      (inputs.mapM fun input => t.answer (filesOf input)).map List.flatten := by
  induction inputs with
  | nil => rfl
  | cons input rest ih =>
    rw [resolve, (readOnly_filesOf input).answer_bind, List.mapM_cons]
    cases t.answer (filesOf input) with
    | error e => rfl
    | ok paths =>
      dsimp only
      rw [(readOnly_resolve rest).answer_bind, ih]
      cases rest.mapM fun input => t.answer (filesOf input) <;> rfl

theorem resolve_eq_ok_iff : t.answer (resolve inputs) = .ok paths ↔ Resolves t inputs paths := by
  simp only [answer_resolve, Except.map_eq_ok_iff, List.mapM_eq_ok_iff, Resolves, finds_iff]
  exact exists_congr fun _ => and_congr_right fun _ => eq_comm

/-- The first input that stands for no files ends the search. -/
theorem resolve_eq_error_iff : t.answer (resolve inputs) = .error e ↔
    ∃ before input after, inputs = before ++ input :: after ∧
      (∀ b ∈ before, ∃ paths, Finds t b (.ok paths)) ∧ Finds t input (.error e) := by
  simp only [answer_resolve, Except.map_eq_error_iff, List.mapM_eq_error_iff, finds_iff]

/-! ### Documents -/

/-- What there is in a file: the records of a document in valid text. -/
inductive Loads (t : FileTree) (pointer : Option String) (path : String) :
    Except RunError Schema → Prop
  | unreadable {e : OsError} (h : t.read path = .error e) :
      Loads t pointer path (.error (.unreadable path e))
  | notText {bytes : ByteArray} (h : t.read path = .ok bytes)
      (htext : ∀ text : String, text.toUTF8 ≠ bytes) : Loads t pointer path (.error (.notText path))
  | badDocument {text : String} {e : Error} (h : t.read path = .ok text.toUTF8)
      (hdocument : Schema.ofDocument text pointer = .error e) :
      Loads t pointer path (.error (.badDocument path e))
  | document {text : String} {s : Schema} (h : t.read path = .ok text.toUTF8)
      (hdocument : Schema.ofDocument text pointer = .ok s) : Loads t pointer path (.ok s)

theorem fromUTF8?_eq_some_iff {bytes : ByteArray} {text : String} :
    String.fromUTF8? bytes = some text ↔ text.toUTF8 = bytes := by
  unfold String.fromUTF8?
  constructor
  · intro h
    obtain ⟨hvalid, h⟩ := Option.dite_none_right_eq_some.1 h
    rw [← Option.some.inj h]
    rfl
  · rintro rfl
    exact dif_pos text.isValidUTF8

theorem readOnly_loadFile (pointer : Option String) (path : String) :
    ReadOnly (loadFile pointer path : StateM FileTree (Except RunError Schema)) := by
  refine (ReadOnly.read path).bind fun r => ?_
  cases r with
  | error e => exact .pure _
  | ok bytes =>
    dsimp only
    split <;> exact .pure _

theorem loads_answer (t : FileTree) (pointer : Option String) (path : String) :
    Loads t pointer path (t.answer (loadFile pointer path)) := by
  rw [loadFile, (ReadOnly.read path).answer_bind]
  cases hread : t.answer (FileSystem.read path) with
  | error e => exact .unreadable hread
  | ok bytes =>
    dsimp only
    cases htext : String.fromUTF8? bytes with
    | none =>
      refine .notText hread fun text h => ?_
      rw [fromUTF8?_eq_some_iff.2 h] at htext
      cases htext
    | some text =>
      obtain rfl := fromUTF8?_eq_some_iff.1 htext
      dsimp only
      cases hdocument : Schema.ofDocument text pointer with
      | error e => exact .badDocument hread hdocument
      | ok s => exact .document hread hdocument

theorem Loads.answer {r : Except RunError Schema} (h : Loads t pointer path r) :
    t.answer (loadFile pointer path) = r := by
  have hread : t.answer (FileSystem.read path) = t.read path := rfl
  rw [loadFile, (ReadOnly.read path).answer_bind, hread]
  cases h with
  | unreadable h =>
    rw [h]
    rfl
  | notText h htext =>
    have hnone := Option.eq_none_iff_forall_ne_some.2 fun text hsome =>
      htext text (fromUTF8?_eq_some_iff.1 hsome)
    rw [h]
    simp only [hnone]
    rfl
  | badDocument h hdocument =>
    rw [h]
    simp only [fromUTF8?_eq_some_iff.2 rfl, hdocument]
    rfl
  | document h hdocument =>
    rw [h]
    simp only [fromUTF8?_eq_some_iff.2 rfl, hdocument]
    rfl

/-- What is loaded is what is computed. -/
theorem loads_iff {r : Except RunError Schema} :
    Loads t pointer path r ↔ t.answer (loadFile pointer path) = r :=
  ⟨Loads.answer, fun h => h ▸ loads_answer t pointer path⟩

/-! ### All files together -/

/-- The records of all files, one file after the other. -/
def Holds (t : FileTree) (pointer : Option String) (paths : List String) (s : Schema) : Prop :=
  ∃ documents, Forall₂ (fun path document => Loads t pointer path (.ok document)) paths documents ∧
    s.records = documents.flatMap Schema.records

/-- Adds the records of one file. -/
def addFile (t : FileTree) (pointer : Option String) (s : Schema) (path : String) :
    Except RunError Schema := do
  match s.merge (← t.answer (loadFile pointer path)) with
  | (_, .error e) => .error (.failed e)
  | (merged, .ok ()) => .ok merged

theorem addFile_eq_ok_iff : addFile t pointer s path = .ok s' ↔
    ∃ document, Loads t pointer path (.ok document) ∧
      s'.records = s.records ++ document.records := by
  simp only [addFile, Except.bind_eq_ok_iff, loads_iff, ← Schema.merge_eq_ok_iff]
  refine exists_congr fun document => and_congr_right fun _ => ?_
  rcases s.merge document with ⟨merged, e | _⟩ <;> simp

theorem addFile_eq_error_iff : addFile t pointer s path = .error e ↔
    Loads t pointer path (.error e) ∨ ∃ document name, Loads t pointer path (.ok document) ∧
      document.names.find? (· ∈ s.names) = some name ∧ e = .failed (.duplicateRecord name) := by
  simp only [addFile, Except.bind_eq_error_iff, loads_iff]
  refine or_congr_right (exists_congr fun document => ?_)
  rw [exists_and_left]
  refine and_congr_right fun _ => ?_
  have hmerge : ∀ e, (s.merge document).2 = .error e ↔ _ := fun e => Schema.merge_eq_error_iff
  generalize s.merge document = r at hmerge ⊢
  obtain ⟨merged, found | _⟩ := r
  · obtain ⟨name, hname, rfl⟩ := (hmerge found).1 rfl
    simp [hname, eq_comm]
  · have hnone : ∀ name, document.names.find? (· ∈ s.names) ≠ some name := fun name hname =>
      nomatch (hmerge _).2 ⟨name, hname, rfl⟩
    simp [hnone]

theorem readOnly_loadFiles (pointer : Option String) (s : Schema) (paths : List String) :
    ReadOnly (loadFiles pointer s paths :
      StateM FileTree (List Event × Except RunError Schema)) := by
  induction paths generalizing s with
  | nil => exact .pure _
  | cons path rest ih =>
    refine (readOnly_loadFile pointer path).bind fun r => ?_
    cases r with
    | error e => exact .pure _
    | ok document =>
      dsimp only
      split
      · exact .pure _
      · exact (ih _).bind fun _ => .pure _

theorem answer_loadFiles (t : FileTree) (pointer : Option String) (s : Schema)
    (paths : List String) :
    (t.answer (loadFiles pointer s paths)).2 = paths.foldlM (addFile t pointer) s := by
  induction paths generalizing s with
  | nil => rfl
  | cons path rest ih =>
    rw [loadFiles, (readOnly_loadFile pointer path).answer_bind, List.foldlM_cons, addFile]
    cases t.answer (loadFile pointer path) with
    | error e => rfl
    | ok document =>
      dsimp only
      rcases hmerge : s.merge document with ⟨merged, e | _⟩
      · simp only [hmerge, bind, Except.bind]
        rfl
      · -- The event of this file goes along with the result of the others.
        simp only [hmerge, bind, Except.bind]
        rw [← ih merged]
        have hrest := congrArg Prod.snd ((readOnly_loadFiles pointer merged rest).answer_bind
          (fun r => pure (Event.loaded path document.size :: r.1, r.2)) t)
        exact hrest

theorem foldlM_addFile_eq_ok_iff : paths.foldlM (addFile t pointer) s = .ok s' ↔
    ∃ documents,
      Forall₂ (fun path document => Loads t pointer path (.ok document)) paths documents ∧
      s'.records = s.records ++ documents.flatMap Schema.records := by
  simp only [← Schema.foldlM_joined_eq_ok_iff]
  induction paths generalizing s with
  | nil => simp [pure, Except.pure]
  | cons path rest ih =>
    simp only [List.foldlM_cons, Except.bind_eq_ok_iff, addFile_eq_ok_iff,
      ← Schema.joined_eq_ok_iff, ih, List.forall₂_cons_left_iff]
    constructor
    · rintro ⟨next, ⟨document, hdocument, hnext⟩, documents, hdocuments, hlast⟩
      exact ⟨document :: documents, ⟨document, documents, hdocument, hdocuments, rfl⟩,
        Except.bind_eq_ok_iff.2 ⟨next, hnext, hlast⟩⟩
    · rintro ⟨_, ⟨document, documents, hdocument, hdocuments, rfl⟩, hlast⟩
      obtain ⟨next, hnext, hlast⟩ := Except.bind_eq_ok_iff.1 hlast
      exact ⟨next, ⟨document, hdocument, hnext⟩, documents, hdocuments, hlast⟩

theorem readOnly_load (i : Inputs) :
    ReadOnly (i.load : StateM FileTree (List Event × Except RunError Schema)) := by
  refine (readOnly_resolve i.patterns).bind fun r => ?_
  cases r with
  | error e => exact .pure _
  | ok paths => exact readOnly_loadFiles _ _ _

/-! ### From inputs to records -/

/-- The records of all inputs. -/
def Gives (i : Inputs) (t : FileTree) (s : Schema) : Prop :=
  ∃ paths, Resolves t i.patterns paths ∧ Holds t i.pointer paths s

/-- What goes wrong first.  All inputs are resolved before any file is read, and the records of a
file are added before the next file is read. -/
inductive Fails (i : Inputs) (t : FileTree) : RunError → Prop
  | resolve {before : List String} {input : String} {after : List String} {e : RunError}
      (h : i.patterns = before ++ input :: after)
      (hbefore : ∀ b ∈ before, ∃ paths, Finds t b (.ok paths)) (hinput : Finds t input (.error e)) :
      Fails i t e
  | load {before : List String} {path : String} {after : List String} {s : Schema} {e : RunError}
      (h : Resolves t i.patterns (before ++ path :: after)) (hbefore : Holds t i.pointer before s)
      (hpath : Loads t i.pointer path (.error e)) : Fails i t e
  | merge {before : List String} {path : String} {after : List String} {s document : Schema}
      {name : String} (h : Resolves t i.patterns (before ++ path :: after))
      (hbefore : Holds t i.pointer before s) (hpath : Loads t i.pointer path (.ok document))
      (hname : document.names.find? (· ∈ s.names) = some name) :
      Fails i t (.failed (.duplicateRecord name))

theorem holds_iff : Holds t pointer paths s ↔
    paths.foldlM (addFile t pointer) Schema.empty = .ok s := by
  rw [foldlM_addFile_eq_ok_iff]
  rfl

theorem answer_load (i : Inputs) (t : FileTree) : (t.answer i.load).2 =
    (t.answer (resolve i.patterns)).bind fun paths =>
      paths.foldlM (addFile t i.pointer) Schema.empty := by
  rw [load, (readOnly_resolve i.patterns).answer_bind]
  cases t.answer (resolve i.patterns) with
  | error e => rfl
  | ok paths => exact answer_loadFiles t i.pointer Schema.empty paths

/-- **Loading gives the records of all inputs.** -/
theorem load_eq_ok_iff {i : Inputs} : (t.answer i.load).2 = .ok s ↔ i.Gives t s := by
  rw [answer_load]
  refine Except.bind_eq_ok_iff.trans ?_
  simp only [resolve_eq_ok_iff, ← holds_iff, Gives]

/-- **Loading fails with what goes wrong first.** -/
theorem load_eq_error_iff {i : Inputs} : (t.answer i.load).2 = .error e ↔ i.Fails t e := by
  rw [answer_load]
  refine Except.bind_eq_error_iff.trans ?_
  simp only [resolve_eq_error_iff, resolve_eq_ok_iff, List.foldlM_eq_error_iff, ← holds_iff,
    addFile_eq_error_iff]
  constructor
  · rintro (⟨before, input, after, h, hbefore, hinput⟩ | ⟨_, h, before, path, after, s, rfl,
      hbefore, hpath | ⟨document, name, hpath, hname, rfl⟩⟩)
    · exact .resolve h hbefore hinput
    · exact .load h hbefore hpath
    · exact .merge h hbefore hpath hname
  · intro h
    cases h with
    | resolve h hbefore hinput => exact .inl ⟨_, _, _, h, hbefore, hinput⟩
    | load h hbefore hpath => exact .inr ⟨_, h, _, _, _, _, rfl, hbefore, .inl hpath⟩
    | merge h hbefore hpath hname =>
      exact .inr ⟨_, h, _, _, _, _, rfl, hbefore, .inr ⟨_, _, hpath, hname, rfl⟩⟩

end SchemaCompiler.Inputs
