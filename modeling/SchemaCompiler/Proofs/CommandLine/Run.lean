import SchemaCompiler.Proofs.CommandLine.Inputs
import SchemaCompiler.Proofs.Compile
import SchemaCompiler.Proofs.FileTree.Changes

/-!
# Runs are all or nothing

A run reads first and writes last.  `Command.Stops` says what goes wrong before there is a text, and
`Command.Makes` which text there is; one of the two always holds.  A run that stops leaves the files
as they were, and a run that has its text prints it or saves it (`run_all_or_nothing`).

Saving makes the directories of the file and writes it (`Saves`).  If both succeed, the text is
where the path leads to, and all else is as it was, new directories on the way apart
(`Saves.delivered`).
-/

namespace SchemaCompiler

open Relation (TransGen)

variable {t t' between : FileTree} {path : String} {content : ByteArray}

/-! ### Saving a text -/

namespace FileTree

/-- The directory that a path is in is made, with all that it needs. -/
def MakesWay (t t' : FileTree) (path : String) : Prop :=
  match Path.parent? path with
  | none => t' = t
  | some parent =>
    (FileSystem.makeDirectories parent : StateM FileTree (Except OsError Unit)) t = (.ok (), t')

/-- The last step of a run: the way is made, and the file is written. -/
inductive Saves (t : FileTree) (path : String) (content : ByteArray) :
    Option RunError → FileTree → Prop
  | cannotCreate {parent : String} {e : OsError} {t' : FileTree}
      (hparent : Path.parent? path = some parent)
      (h : (FileSystem.makeDirectories parent : StateM FileTree (Except OsError Unit)) t =
        (.error e, t')) : Saves t path content (some (.cannotCreate parent e)) t'
  | cannotWrite {e : OsError} {t' : FileTree} (hway : t.MakesWay t' path)
      (h : t'.write path content = .error e) : Saves t path content (some (.cannotWrite path e)) t'
  | saved {between t' : FileTree} (hway : t.MakesWay between path)
      (h : between.write path content = .ok t') : Saves t path content none t'

/-- A file is where its path leads to, and nothing else is new but directories that it is in. -/
structure Delivered (t t' : FileTree) (path : String) (content : ByteArray)
    (place : List String) : Prop where
  leads : t'.locate path = .ok place
  holds : t'.read path = .ok content
  parent : ∀ parent, Path.parent? path = some parent →
    parent = "" ∨ t'.kind? parent = some .directory
  elsewhere : ∀ other, other ≠ place → t'.entryAt? other = t.entryAt? other ∨
    t.entryAt? other = none ∧ t'.entryAt? other = some .directory ∧
      ∃ upper, TransGen IsIn path upper ∧ t'.locate upper = .ok other
  reads : ∀ other old, t.read other = .ok old →
    t'.locate other = .ok place ∨ t'.read other = .ok old

theorem MakesWay.adds (h : t.MakesWay between path) : t.Adds between (TransGen IsIn path) := by
  unfold MakesWay at h
  split at h
  · rw [h]
    exact .refl t _
  · next parent hparent =>
    exact (adds_of_makeDirectories h).1.mono fun upper hupper => .head' hparent hupper

theorem MakesWay.parent (h : t.MakesWay between path) {parent : String}
    (hparent : Path.parent? path = some parent) :
    parent = "" ∨ between.kind? parent = some .directory := by
  rw [MakesWay, hparent] at h
  exact (adds_of_makeDirectories h).2 rfl

theorem makesWay_or_error (t : FileTree) (path : String) : (∃ between, t.MakesWay between path) ∨
    ∃ parent e t', Path.parent? path = some parent ∧
      (FileSystem.makeDirectories parent : StateM FileTree _) t = (.error e, t') := by
  unfold MakesWay
  cases hparent : Path.parent? path with
  | none => exact .inl ⟨t, rfl⟩
  | some parent =>
    rcases hmade : (FileSystem.makeDirectories parent : StateM FileTree _) t with ⟨e | _, t'⟩
    · exact .inr ⟨parent, e, t', rfl, hmade⟩
    · exact .inl ⟨t', hmade⟩

/-- **A text that is saved is delivered.** -/
theorem Saves.delivered (h : t.Saves path content none t') :
    ∃ place, t.Delivered t' path content place := by
  cases h with
  | @saved between _ hway hwrite =>
    obtain ⟨place, hputs⟩ := puts_of_write hwrite
    have hadds := hway.adds
    refine ⟨place, hputs.leads, ?_, ?_, ?_, ?_⟩
    · exact read_eq_ok_iff.2 ⟨place, hputs.leads, hputs.entryAt?_self⟩
    · exact fun parent hparent => (hway.parent hparent).imp_right hputs.keeps.kind?
    · intro other hother
      rw [hputs.entryAt?_of_ne hother]
      refine (hadds.entries other).imp_right ?_
      rintro ⟨hnone, hdirectory, upper, hupper, hleads⟩
      exact ⟨hnone, hdirectory, upper, hupper, hputs.keeps.locate hleads⟩
    · intro other old hread
      obtain ⟨found, hfound, hold⟩ := read_eq_ok_iff.1 hread
      have hleads := hputs.keeps.locate (hadds.keeps.locate hfound)
      by_cases hplace : found = place
      · exact .inl (hplace ▸ hleads)
      · -- There was a file at the other place, so no directory is new there.
        refine .inr (read_eq_ok_iff.2 ⟨found, hleads, ?_⟩)
        rw [hputs.entryAt?_of_ne hplace]
        rcases hadds.entries found with hsame | ⟨hnone, _⟩
        · rw [hsame, hold]
        · rw [hnone] at hold
          cases hold

end FileTree

theorem Text.unlines_eq_join (lines : List String) :
    unlines lines = String.join (lines.map (· ++ "\n")) := by
  induction lines with
  | nil => rfl
  | cons line rest ih => simp [unlines, ih, String.append_assoc]

namespace Command

open FileTree

variable {c : Command} {e : RunError} {text : String}

theorem deliver_of_error {parent : String} {e : OsError} (hparent : Path.parent? path = some parent)
    (h : (FileSystem.makeDirectories parent : StateM FileTree _) t = (.error e, t'))
    (text : String) :
    (deliver path text : StateM FileTree _) t = (.error (.cannotCreate parent e), t') := by
  rw [deliver, hparent]
  simp [h, Except.mapError]

/-- Once the way is made, all depends on the file. -/
theorem deliver_of_makesWay (h : t.MakesWay between path) (text : String) :
    (deliver path text : StateM FileTree _) t =
      match between.write path text.toUTF8 with
      | .ok t' => (.ok (), t')
      | .error e => (.error (.cannotWrite path e), between) := by
  have hwrite : (Except.mapError (RunError.cannotWrite path) <$>
      FileSystem.write path text.toUTF8 : StateM FileTree _) between =
        match between.write path text.toUTF8 with
        | .ok t' => (.ok (), t')
        | .error e => (.error (.cannotWrite path e), between) := by
    simp only [StateM.map_apply, FileSystem.write, change]
    cases between.write path text.toUTF8 <;> rfl
  rw [← hwrite, deliver]
  rw [MakesWay] at h
  cases hparent : Path.parent? path with
  | none =>
    rw [hparent] at h
    rw [h]
    rfl
  | some parent =>
    rw [hparent] at h
    dsimp only at h ⊢
    rw [StateM.bind_apply, StateM.map_apply, h]
    rfl

/-- Delivering a text is saving it. -/
theorem saves_of_deliver (t : FileTree) (path text : String) :
    (∃ t', (deliver path text : StateM FileTree _) t = (.ok (), t') ∧
      t.Saves path text.toUTF8 none t') ∨
    ∃ e t', (deliver path text : StateM FileTree _) t = (.error e, t') ∧
      t.Saves path text.toUTF8 (some e) t' := by
  obtain ⟨between, hway⟩ | ⟨parent, e, t', hparent, hmade⟩ := makesWay_or_error t path
  · rw [deliver_of_makesWay hway]
    cases hwrite : between.write path text.toUTF8 with
    | ok t' => exact .inl ⟨t', rfl, .saved hway hwrite⟩
    | error e => exact .inr ⟨_, between, rfl, .cannotWrite hway hwrite⟩
  · exact .inr ⟨_, t', deliver_of_error hparent hmade text, .cannotCreate hparent hmade⟩

/-! ### Making the text -/

/-- What a command generates, unless it lists the order of emission. -/
def options? : Command → Option Options
  | .rust _ space _ _ => some ⟨.rust, some space⟩
  | .cpp _ space dumpMacro _ _ => some ⟨.cpp dumpMacro, some space⟩
  | .order _ _ => none

/-- What goes wrong first before there is a text: the inputs cannot be loaded, or their records not
ordered, or not all normalised, or not emitted. -/
inductive Stops (c : Command) (t : FileTree) : RunError → Prop
  | load {e : RunError} (h : c.inputs.Fails t e) : Stops c t e
  | order {s : Schema} {e : Error} (hs : c.inputs.Gives t s) (h : s.emissionOrder = .error e) :
      Stops c t (.failed e)
  | normalize {s : Schema} {o : Options} {order : List String} {e : Error}
      (hs : c.inputs.Gives t s) (ho : c.options? = some o) (horder : s.emissionOrder = .ok order)
      (h : order.mapM s.record = .error e) : Stops c t (.failed e)
  | emit {s : Schema} {o : Options} {records : List Record} {e : Error}
      (hs : c.inputs.Gives t s) (ho : c.options? = some o) (hplan : s.plan = .ok records)
      (h : o.target.emit o.spaceName records = .error e) : Stops c t (.failed e)

/-- The text that a command makes of the records of its inputs. -/
inductive Makes (c : Command) (t : FileTree) : String → Prop
  | source {s : Schema} {o : Options} {file : SourceFile} (hs : c.inputs.Gives t s)
      (ho : c.options? = some o) (h : s.compile o = .ok file) : Makes c t file.text
  | listing {s : Schema} {order : List String} (hs : c.inputs.Gives t s) (ho : c.options? = none)
      (h : s.emissionOrder = .ok order) : Makes c t (String.join (order.map (· ++ "\n")))

theorem text_of_options?_eq_some {o : Options} (h : c.options? = some o) (s : Schema) :
    c.text s = (s.compile o).map SourceFile.text := by
  cases c <;> simp_all [options?, text]

theorem text_of_options?_eq_none (h : c.options? = none) (s : Schema) :
    c.text s = s.emissionOrder.map Text.unlines := by
  cases c <;> simp_all [options?, text]

theorem readOnly_gather (c : Command) :
    ReadOnly (c.gather : StateM FileTree (List Event × Except RunError String)) := by
  refine (Inputs.readOnly_load c.inputs).bind ?_
  rintro ⟨events, e | s⟩ <;> exact .pure _

theorem answer_gather (c : Command) (t : FileTree) : (t.answer c.gather).2 =
    (t.answer c.inputs.load).2.bind fun s => (c.text s).mapError .failed := by
  rw [gather, (Inputs.readOnly_load c.inputs).answer_bind]
  rcases t.answer c.inputs.load with ⟨events, e | s⟩ <;> rfl

/-- **Gathering gives the text of the command.** -/
theorem gather_eq_ok_iff : (t.answer c.gather).2 = .ok text ↔ c.Makes t text := by
  rw [answer_gather]
  refine Except.bind_eq_ok_iff.trans ?_
  simp only [Inputs.load_eq_ok_iff, Except.mapError_eq_ok_iff]
  constructor
  · rintro ⟨s, hs, h⟩
    cases ho : c.options? with
    | none =>
      rw [text_of_options?_eq_none ho, Except.map_eq_ok_iff] at h
      obtain ⟨order, horder, rfl⟩ := h
      rw [Text.unlines_eq_join]
      exact .listing hs ho horder
    | some o =>
      rw [text_of_options?_eq_some ho, Except.map_eq_ok_iff] at h
      obtain ⟨file, hfile, rfl⟩ := h
      exact .source hs ho hfile
  · intro h
    cases h with
    | source hs ho h =>
      refine ⟨_, hs, ?_⟩
      rw [text_of_options?_eq_some ho, h]
      rfl
    | listing hs ho h =>
      refine ⟨_, hs, ?_⟩
      rw [text_of_options?_eq_none ho, h, ← Text.unlines_eq_join]
      rfl

/-- **Gathering fails with what goes wrong first.** -/
theorem gather_eq_error_iff : (t.answer c.gather).2 = .error e ↔ c.Stops t e := by
  rw [answer_gather]
  refine Except.bind_eq_error_iff.trans ?_
  simp only [Inputs.load_eq_ok_iff, Inputs.load_eq_error_iff, Except.mapError_eq_error_iff]
  constructor
  · rintro (h | ⟨s, hs, e, h, rfl⟩)
    · exact .load h
    · cases ho : c.options? with
      | none =>
        rw [text_of_options?_eq_none ho, Except.map_eq_error_iff] at h
        exact .order hs h
      | some o =>
        rw [text_of_options?_eq_some ho, Except.map_eq_error_iff,
          Schema.compile_eq_error_iff] at h
        obtain h | ⟨order, horder, h⟩ | ⟨records, hplan, h⟩ := h
        · exact .order hs h
        · exact .normalize hs ho horder h
        · exact .emit hs ho hplan h
  · -- A listing fails at the order alone; the later stages are those of a compilation.
    have hcompile : ∀ {s o e}, c.options? = some o → s.compile o = .error e →
        c.text s = .error e := by
      intro s o e ho h
      rw [text_of_options?_eq_some ho, h]
      rfl
    intro h
    cases h with
    | load h => exact .inl h
    | @order s e hs h =>
      refine .inr ⟨s, hs, e, ?_, rfl⟩
      cases ho : c.options? with
      | none => rw [text_of_options?_eq_none ho, Except.map_eq_error_iff, h]
      | some o => exact hcompile ho (Schema.compile_eq_error_iff.2 (.inl h))
    | @normalize s o order e hs ho horder h =>
      have herror : s.compile o = .error e :=
        Schema.compile_eq_error_iff.2 (.inr (.inl ⟨order, horder, h⟩))
      exact .inr ⟨s, hs, e, hcompile ho herror, rfl⟩
    | @emit s o records e hs ho hplan h =>
      have herror : s.compile o = .error e :=
        Schema.compile_eq_error_iff.2 (.inr (.inr ⟨records, hplan, h⟩))
      exact .inr ⟨s, hs, e, hcompile ho herror, rfl⟩

/-- **A run is all or nothing.**  It stops or makes a text.  A run that stops gives the error and
leaves every file and directory as it was.  A run that makes a text prints it, with no change to the
files, or saves it. -/
theorem run_all_or_nothing (c : Command) (hrun : c.noOp = false) (t : FileTree) :
    ((∃ e, c.Stops t e) ∨ ∃ text, c.Makes t text) ∧
    (∀ e, c.Stops t e → ∃ events,
      (c.run : StateM FileTree Outcome) t = (⟨some e, "", "", events⟩, t)) ∧
    ∀ text, c.Makes t text →
      (c.out = none → ∃ events,
        (c.run : StateM FileTree Outcome) t = (⟨none, text, "", events⟩, t)) ∧
      ∀ path, c.out = some path → ∃ failure events t',
        (c.run : StateM FileTree Outcome) t = (⟨failure, "", "", events⟩, t') ∧
        t.Saves path text.toUTF8 failure t' ∧
        (failure = none → ∃ place, t.Delivered t' path text.toUTF8 place) := by
  -- Gathering only reads, so the text is delivered to the tree that the run started with.
  have hgather := (readOnly_gather c).apply_eq t
  simp only [run, hrun, Bool.false_eq_true, if_false, StateM.bind_apply, hgather,
    ← gather_eq_ok_iff, ← gather_eq_error_iff]
  rcases t.answer c.gather with ⟨events, e | text⟩
  · refine ⟨.inl ⟨e, rfl⟩, ?_, ?_⟩
    · rintro _ ⟨⟩
      exact ⟨events, rfl⟩
    · rintro text ⟨⟩
  · refine ⟨.inr ⟨text, rfl⟩, ?_, ?_⟩
    · rintro e ⟨⟩
    · rintro _ ⟨⟩
      refine ⟨fun hout => ⟨events, by simp [hout]⟩, fun path hout => ?_⟩
      obtain ⟨t', hdeliver, hsaves⟩ | ⟨e, t', hdeliver, hsaves⟩ := saves_of_deliver t path text
      · exact ⟨none, events, t', by simp [hout, hdeliver], hsaves, fun _ => hsaves.delivered⟩
      · exact ⟨some e, events, t', by simp [hout, hdeliver], hsaves, nofun⟩

/-- A document with one record. -/
def petDocument : String :=
  "\x7b\"definitions\":\x7b\"Pet\":\x7b\x7d\x7d\x7d"

/-- A working directory with the document. -/
def petDesk : FileTree :=
  ⟨.directory [("work", .directory [("pets.json", .file petDocument.toUTF8)])], ["work"]⟩

/-- Lists the order of emission in a file two directories further down. -/
def petListing : Command :=
  .order ⟨none, ["pets.json"]⟩ (some "out/lists/names.txt")

theorem petListing_delivered : ∃ events t' place,
    (petListing.run : StateM FileTree Outcome) petDesk = (⟨none, "", "", events⟩, t') ∧
      petDesk.Delivered t' "out/lists/names.txt" "Pet\n".toUTF8 place := by
  obtain ⟨s, hdocument, horder⟩ : ∃ s, Schema.ofDocument petDocument none = .ok s ∧
      s.emissionOrder = .ok ["Pet"] := by
    have heval : ((Schema.ofDocument petDocument none).bind Schema.emissionOrder).toOption =
        some ["Pet"] := by
      decide +kernel
    cases horder : (Schema.ofDocument petDocument none).bind Schema.emissionOrder with
    | error e =>
      rw [horder] at heval
      cases heval
    | ok order =>
      rw [horder] at heval
      obtain rfl := Option.some.inj heval
      exact Except.bind_eq_ok_iff.1 horder
  have hgives : petListing.inputs.Gives petDesk s :=
    ⟨["pets.json"], ⟨[["pets.json"]], .cons (.path rfl) .nil, rfl⟩,
      [s], .cons (.document (by rfl) hdocument) .nil, by simp⟩
  have hmakes : petListing.Makes petDesk "Pet\n" := .listing hgives rfl horder
  obtain ⟨_, _, hmade⟩ := run_all_or_nothing petListing rfl petDesk
  obtain ⟨failure, events, t', hrun, _, hdelivered⟩ := (hmade "Pet\n" hmakes).2 _ rfl
  have hnone : ((petListing.run : StateM FileTree Outcome) petDesk).1.failure.isNone = true := by
    decide +kernel
  rw [hrun] at hnone
  obtain rfl : failure = none := by simpa using hnone
  obtain ⟨place, hplace⟩ := hdelivered rfl
  exact ⟨events, t', place, hrun, hplace⟩

end Command

end SchemaCompiler
