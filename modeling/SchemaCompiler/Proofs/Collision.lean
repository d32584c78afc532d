import SchemaCompiler.Proofs.Compile

/-!
# The first collision

Emission fails exactly if two identifiers collide, and which collision it reports is determined: the
first one that is met when the records are gone through in order, the type of a record before its
members and these in order (`Backend.FirstCollision`, `Backend.emit_reports_first_collision`).

Both scans have the same form, that of `Backend.scan`: each element is checked against the names of
the elements before it.  So a scan that fails has an element at which it fails, and everything
before that one has passed.  What has passed has distinct identifiers, which is why exactly one of
the earlier names can have the identifier of the one that collides.
-/

namespace SchemaCompiler

namespace Backend

variable {b : Backend} {record space first second : String} {seen : List String} {e : Error}
  {rs : List Record}

/-! ### Collisions -/

/-- No two records have the same type identifier, and no two keys of a record the same member
identifier. -/
structure Unambiguous (b : Backend) (rs : List Record) : Prop where
  types : (rs.map fun r => b.typeIdent r.name).Nodup
  members : ∀ r ∈ rs, (r.fields.map fun f => b.memberIdent f.key).Nodup

/-- The names that are seen have distinct identifiers, and `second` has the identifier of `first`,
which is one of them, and of no other. -/
structure Clash (ident : String → String) (seen : List String) (first second : String) : Prop where
  distinct : (seen.map ident).Nodup
  same : ident first = ident second
  unique : ∃ earlier later, seen = earlier ++ first :: later ∧
    ∀ other ∈ earlier ++ later, ident other ≠ ident second

/-- The collision that comes first in a list of records, as an error reports it. -/
inductive FirstCollision (b : Backend) (rs : List Record) : Error → Prop
  /-- The records before `r` are clear, and the type of `r` is that of one of them. -/
  | type {before after : List Record} {r : Record} {first : String}
      (split : rs = before ++ r :: after)
      (members : ∀ u ∈ before, (u.fields.map fun f => b.memberIdent f.key).Nodup)
      (clash : Clash b.typeIdent (before.map Record.name) first r.name) :
      FirstCollision b rs (.typeCollision (b.typeIdent r.name) first r.name)
  /-- The records before `r` are clear, the type of `r` is none of theirs, and the member of its
  field `f` is that of a field before it. -/
  | member {before after : List Record} {r : Record} {fs rest : List Field} {f : Field}
      {first : String} (split : rs = before ++ r :: after)
      (types : ((before ++ [r]).map fun u => b.typeIdent u.name).Nodup)
      (members : ∀ u ∈ before, (u.fields.map fun f => b.memberIdent f.key).Nodup)
      (fields : r.fields = fs ++ f :: rest)
      (clash : Clash b.memberIdent (fs.map Field.key) first f.key) :
      FirstCollision b rs (.memberCollision r.name (b.memberIdent f.key) first f.key)

/-- A clash is found by looking for the identifier among the names that are seen. -/
theorem clash?_eq_some_iff {ident : String → String} (hseen : (seen.map ident).Nodup) :
    clash? ident seen second = some first ↔ Clash ident seen first second := by
  rw [clash?, List.find?_eq_some_iff_append]
  constructor
  · rintro ⟨hsame, earlier, later, rfl, hearlier⟩
    have hsame : ident first = ident second := by simpa using hsame
    refine ⟨hseen, hsame, earlier, later, rfl, fun other hother => ?_⟩
    rcases List.mem_append.1 hother with hother | hother
    · simpa using hearlier other hother
    · -- Behind the first name with the identifier there is no other one, as they are distinct.
      rw [List.map_append, List.map_cons, List.nodup_append, List.nodup_cons] at hseen
      intro heq
      exact hseen.2.1.1 (List.mem_map.2 ⟨other, hother, heq.trans hsame.symm⟩)
  · rintro ⟨_, hsame, earlier, later, hsplit, hother⟩
    refine ⟨by simpa using hsame, earlier, later, hsplit, fun other ho => ?_⟩
    simpa using hother other (List.mem_append_left _ ho)

/-! ### Scans -/

/-- Checks elements one after the other, each against the names of those before it. -/
def scan {α : Type} (name : α → String) (check : List String → α → Except Error Unit)
    (seen : List String) : List α → Except Error Unit
  | [] => .ok ()
  | x :: rest => do
    check seen x
    scan name check (seen ++ [name x]) rest

/-- A scan fails at the first element that does not pass. -/
theorem scan_eq_error_iff {α : Type} {name : α → String}
    {check : List String → α → Except Error Unit} {xs : List α} :
    scan name check seen xs = .error e ↔ ∃ before x after, xs = before ++ x :: after ∧
      scan name check seen before = .ok () ∧ check (seen ++ before.map name) x = .error e := by
  induction xs generalizing seen with
  | nil => simp [scan]
  | cons x rest ih =>
    rw [scan, Except.bind_eq_error_iff]
    simp only [ih]
    constructor
    · rintro (h | ⟨_, hx, before, y, after, rfl, hbefore, hy⟩)
      · exact ⟨[], x, rest, rfl, rfl, by simpa using h⟩
      · refine ⟨x :: before, y, after, rfl, ?_, by simpa using hy⟩
        rw [scan, hx]
        exact hbefore
    · rintro ⟨before, y, after, hsplit, hbefore, hy⟩
      cases before with
      | nil =>
        obtain ⟨rfl, rfl⟩ := List.cons.inj hsplit
        exact .inl (by simpa using hy)
      | cons x' before =>
        obtain ⟨rfl, rfl⟩ := List.cons.inj hsplit
        obtain ⟨_, hx, hbefore⟩ := Except.bind_eq_ok_iff.1 hbefore
        exact .inr ⟨(), hx, before, y, after, rfl, hbefore, by simpa using hy⟩

/-- The check of a single field, after the keys already seen. -/
def checkMember (b : Backend) (record : String) (seen : List String) (f : Field) :
    Except Error Unit :=
  match clash? b.memberIdent seen f.key with
  | some first => .error (.memberCollision record (b.memberIdent f.key) first f.key)
  | none => .ok ()

/-- The check of a single record, after the records already seen. -/
def checkRecord (b : Backend) (seen : List String) (r : Record) : Except Error Unit :=
  match clash? b.typeIdent seen r.name with
  | some first => .error (.typeCollision (b.typeIdent r.name) first r.name)
  | none => b.checkMembers r.name [] r.fields

theorem checkMembers_eq_scan (b : Backend) (record : String) (seen : List String)
    (fs : List Field) :
    b.checkMembers record seen fs = scan Field.key (b.checkMember record) seen fs := by
  induction fs generalizing seen with
  | nil => rfl
  | cons f rest ih =>
    rw [checkMembers, scan, checkMember, ← ih]
    cases clash? b.memberIdent seen f.key <;> rfl

theorem checkRecords_eq_scan (b : Backend) (seen : List String) (rs : List Record) :
    b.checkRecords seen rs = scan Record.name b.checkRecord seen rs := by
  induction rs generalizing seen with
  | nil => rfl
  | cons r rest ih =>
    rw [checkRecords, scan, checkRecord, ← ih]
    cases clash? b.typeIdent seen r.name <;> rfl

/-! ### What is reported -/

/-- The keys of a record are refused at the first one whose member identifier is taken. -/
theorem checkMembers_eq_error_iff {fs : List Field} :
    b.checkMembers record [] fs = .error e ↔ ∃ before f after first, fs = before ++ f :: after ∧
      Clash b.memberIdent (before.map Field.key) first f.key ∧
      e = .memberCollision record (b.memberIdent f.key) first f.key := by
  rw [checkMembers_eq_scan, scan_eq_error_iff]
  simp only [← checkMembers_eq_scan, List.nil_append]
  constructor
  · rintro ⟨before, f, after, hsplit, hbefore, hf⟩
    have hdistinct := (checkMembers_eq_ok_iff (by simp)).1 hbefore
    rw [checkMember] at hf
    split at hf
    · next first hclash =>
      exact ⟨before, f, after, first, hsplit, (clash?_eq_some_iff hdistinct).1 hclash,
        (Except.error.inj hf).symm⟩
    · cases hf
  · rintro ⟨before, f, after, first, hsplit, hclash, rfl⟩
    refine ⟨before, f, after, hsplit, (checkMembers_eq_ok_iff (by simp)).2 hclash.distinct, ?_⟩
    rw [checkMember, (clash?_eq_some_iff hclash.distinct).2 hclash]

theorem checkIdentifiers_eq_ok_iff_unambiguous :
    b.checkIdentifiers rs = .ok () ↔ b.Unambiguous rs := by
  rw [checkIdentifiers_eq_ok_iff]
  exact ⟨fun ⟨htypes, hmembers⟩ => ⟨htypes, hmembers⟩, fun h => ⟨h.types, h.members⟩⟩

/-- **The check reports the first collision.** -/
theorem checkIdentifiers_eq_error_iff :
    b.checkIdentifiers rs = .error e ↔ b.FirstCollision rs e := by
  have hnames : ∀ before : List Record, (before.map Record.name).map b.typeIdent =
      before.map fun r => b.typeIdent r.name := fun before => List.map_map
  rw [checkIdentifiers, checkRecords_eq_scan, scan_eq_error_iff]
  simp only [← checkRecords_eq_scan, List.nil_append]
  constructor
  · rintro ⟨before, r, after, hsplit, hbefore, hr⟩
    obtain ⟨htypes, hmembers⟩ := checkIdentifiers_eq_ok_iff.1 hbefore
    rw [← hnames] at htypes
    rw [checkRecord] at hr
    split at hr
    · next first hclash =>
      obtain rfl := Except.error.inj hr
      exact .type hsplit hmembers ((clash?_eq_some_iff htypes).1 hclash)
    · next hclash =>
      -- The type of the record is new, so what is refused is one of its keys.
      obtain ⟨fs, f, rest, first, hfields, hfirst, rfl⟩ := checkMembers_eq_error_iff.1 hr
      have htypes' := nodup_map_concat htypes hclash
      refine .member hsplit ?_ hmembers hfields hfirst
      rwa [← hnames, List.map_append, List.map_singleton]
  · intro h
    cases h with
    | @type before after r first hsplit hmembers hclash =>
      have htypes := hclash.distinct
      refine ⟨before, r, after, hsplit, ?_, ?_⟩
      · rw [hnames] at htypes
        exact checkIdentifiers_eq_ok_iff.2 ⟨htypes, hmembers⟩
      · rw [checkRecord, (clash?_eq_some_iff htypes).2 hclash]
    | @member before after r fs rest f first hsplit htypes hmembers hfields hclash =>
      rw [List.map_append, List.nodup_append] at htypes
      refine ⟨before, r, after, hsplit, checkIdentifiers_eq_ok_iff.2 ⟨htypes.1, hmembers⟩, ?_⟩
      have hnew : clash? b.typeIdent (before.map Record.name) r.name = none := by
        rw [clash?_eq_none_iff, hnames]
        exact fun hmem => htypes.2.2 _ hmem _ (by simp) rfl
      rw [checkRecord, hnew]
      exact checkMembers_eq_error_iff.2 ⟨fs, f, rest, first, hfields, hclash, rfl⟩

/-- The earlier of two names that clash is another one than the later, if no name comes twice. -/
theorem Clash.ne {ident : String → String} (h : Clash ident seen first second)
    {rest : List String} (hnodup : (seen ++ second :: rest).Nodup) : first ≠ second := by
  obtain ⟨earlier, later, rfl, _⟩ := h.unique
  rw [List.nodup_append] at hnodup
  exact hnodup.2.2 first (by simp) second List.mem_cons_self

end Backend

namespace Schema

variable {s : Schema} {rs : List Record} {r : Record} {name : String}

/-! ### Planned records -/

theorem names_nodup_of_plan (h : s.plan = .ok rs) : (rs.map Record.name).Nodup :=
  (ordered_emissionOrder (emissionOrder_of_plan h).1).nodup

/-- The fields of a record have distinct keys. -/
theorem keys_nodup_of_record (h : s.record name = .ok r) : (r.fields.map Field.key).Nodup := by
  have hfieldsOf : ∀ typed : List (String × FieldType),
      ((fieldsOf typed).map Field.key).Nodup := by
    intro typed
    rw [keys_fieldsOf]
    exact Entries.keys_nodup_ofList typed
  obtain ⟨definition, shape, body, _, _, hbody, rfl⟩ := record_eq_ok_iff.1 h
  cases shape with
  | bare definition =>
    obtain ⟨type, _, rfl⟩ := Except.map_eq_ok_iff.1 hbody
    exact List.nodup_nil
  | fields properties =>
    obtain ⟨typed, _, rfl⟩ := Except.map_eq_ok_iff.1 hbody
    exact hfieldsOf typed
  | composed members =>
    obtain ⟨parts, _, rfl⟩ := Except.map_eq_ok_iff.1 hbody
    exact hfieldsOf parts.flatten

end Schema

/-! ### Emission -/

/-- **Emission succeeds exactly if no identifiers collide, and reports the first collision
otherwise.**  On success there is one unit for each record, in the given order.  Records and keys
that come from a plan collide only with others than themselves. -/
theorem Backend.emit_reports_first_collision (b : Backend) (space : String) (rs : List Record) :
    ((∃ file, b.emit space rs = .ok file) ↔ b.Unambiguous rs) ∧
    (∀ file, b.emit space rs = .ok file →
      file.units = rs.map fun r => ⟨r.name, b.recordText r⟩) ∧
    (∀ e, b.emit space rs = .error e ↔ b.FirstCollision rs e) ∧
    ∀ s : Schema, s.plan = .ok rs →
      (∀ name first second, b.emit space rs = .error (.typeCollision name first second) →
        first ≠ second) ∧
      ∀ record member first second,
        b.emit space rs = .error (.memberCollision record member first second) →
          first ≠ second := by
  have herror : ∀ e, b.emit space rs = .error e ↔ b.FirstCollision rs e := fun e =>
    emit_eq_error_iff.trans checkIdentifiers_eq_error_iff
  refine ⟨⟨?_, fun h => ?_⟩, fun file hfile => ?_, herror, fun s hplan => ⟨?_, ?_⟩⟩
  · rintro ⟨file, hfile⟩
    exact checkIdentifiers_eq_ok_iff_unambiguous.1 (emit_eq_ok_iff.1 hfile).1
  · exact ⟨_, emit_eq_ok_iff.2 ⟨checkIdentifiers_eq_ok_iff_unambiguous.2 h, rfl⟩⟩
  · rw [(emit_eq_ok_iff.1 hfile).2]
  · intro name first second h
    cases (herror _).1 h with
    | type hsplit _ hclash =>
      have hnames := Schema.names_nodup_of_plan hplan
      rw [hsplit, List.map_append, List.map_cons] at hnames
      exact hclash.ne hnames
  · intro record member first second h
    cases (herror _).1 h with
    | @member before after r fs rest f _ hsplit _ _ hfields hclash =>
      have hr : r ∈ rs := hsplit ▸ List.mem_append_right _ List.mem_cons_self
      have hkeys := Schema.keys_nodup_of_record ((Schema.emissionOrder_of_plan hplan).2 r hr)
      rw [hfields, List.map_append, List.map_cons] at hkeys
      exact hclash.ne hkeys

/-- Two keys of the first record have the same member, and both records the same type. -/
def doublyColliding : Schema := Schema.ofList
  [("pet", .obj [("properties", .obj [("x-y", .obj [("type", .str "string")]),
      ("x_y", .obj [("type", .str "boolean")])])]),
   ("Pet", .obj [("type", .str "string")])]

/-- The records of `doublyColliding` in the order of emission. -/
def doublyCollidingPlan : List Record :=
  [⟨"pet", .fields [⟨"x-y", .string, true⟩, ⟨"x_y", .boolean, true⟩]⟩, ⟨"Pet", .wrapper .string⟩]

/-- The members of the first record are met before the type of the second. -/
theorem doublyColliding_first_collision :
    doublyColliding.plan = .ok doublyCollidingPlan ∧
      ¬ Target.rust.backend.Unambiguous doublyCollidingPlan ∧
      Target.rust.backend.FirstCollision doublyCollidingPlan
        (.memberCollision "pet" "x_y" "x-y" "x_y") ∧
      "x-y" ≠ "x_y" := by
  have hplan : doublyColliding.plan = .ok doublyCollidingPlan := by with_unfolding_all rfl
  have hemit : Target.rust.backend.emit "models" doublyCollidingPlan =
      .error (.memberCollision "pet" "x_y" "x-y" "x_y") := by rfl
  obtain ⟨hok, _, herror, hdiffer⟩ :=
    Backend.emit_reports_first_collision Target.rust.backend "models" doublyCollidingPlan
  refine ⟨hplan, fun h => ?_, (herror _).1 hemit, (hdiffer _ hplan).2 _ _ _ _ hemit⟩
  obtain ⟨file, hfile⟩ := hok.2 h
  rw [hemit] at hfile
  cases hfile

end SchemaCompiler
