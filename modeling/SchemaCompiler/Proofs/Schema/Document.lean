import SchemaCompiler.Proofs.FirstOccurrence
import SchemaCompiler.Proofs.Json.Skip

/-!
# Two ways to load a document

With a pointer, a document is read as one value and the pointer selects from it; without one, it is
read field by field, and what nobody asked for is passed over.  The two have little code in common,
but they load the same records.  The field reader follows the value reader through the text
(`Reader.document_of_value`): what it has seen of the two places at any time is what can be looked
up in the entries so far.

They differ in where they stop.  With a pointer the text has to be one value
(`Reader.isText_of_whole`).  Without one, reading ends with the document, and whatever follows has
no say (`Schema.detect_append`).
-/

namespace SchemaCompiler

/-! ### Entries with distinct names -/

namespace Entries

variable {α : Type}

theorem ofList_eq_self {es : Entries α} (h : es.keys.Nodup) : ofList es = es := by
  induction es using List.reverseRecOn with
  | nil => rfl
  | append_singleton es e ih =>
    rw [keys_append, List.nodup_append] at h
    have hnew : e.1 ∉ keys es := fun hmem => h.2.2 e.1 hmem e.1 List.mem_cons_self rfl
    rw [ofList_concat, ih h.1, insert, if_neg hnew]

theorem get?_concat {es : Entries α} {key : String} (h : es.get? key = none) (v : α)
    (name : String) :
    get? (es ++ [(key, v)]) name = if key = name then some v else es.get? name := by
  rw [get?_append, get?_cons]
  by_cases hname : key = name
  · rw [if_pos hname, if_pos hname, ← hname, h, Option.none_or]
  · rw [if_neg hname, if_neg hname]
    exact Option.or_none

/-- With distinct names, an entry is the first of its name and the one that is found. -/
theorem get?_of_split {es seen later : Entries α} {key : String} {v : α} (h : es.keys.Nodup)
    (hsplit : es = seen ++ (key, v) :: later) : seen.get? key = none ∧ es.get? key = some v := by
  have hget : es.get? key = some v := by
    rw [get?_eq_some_iff h, hsplit]
    exact List.mem_append_right _ List.mem_cons_self
  rw [hsplit, keys_append, List.nodup_append] at h
  refine ⟨get?_eq_none_iff.2 fun hmem => ?_, hget⟩
  exact h.2.2 key hmem key List.mem_cons_self rfl

end Entries

namespace Json

variable {es : Entries Json} {key : String}

theorem keys_unrepeatedEntries : (unrepeatedEntries es).keys = es.keys := by
  induction es with
  | nil => rfl
  | cons e es ih => rw [unrepeatedEntries, Entries.keys_cons, Entries.keys_cons, ih]

theorem get?_unrepeatedEntries :
    (unrepeatedEntries es).get? key = (es.get? key).map unrepeated := by
  induction es with
  | nil => rfl
  | cons e es ih =>
    rw [unrepeatedEntries, Entries.get?_cons, Entries.get?_cons, ih]
    split <;> rfl

/-- Without repeated keys, what is found under a key does not depend on the others. -/
theorem enter_unrepeated (h : es.keys.Nodup) :
    Pointer.enter (unrepeated (.obj es)) key = (es.get? key).map unrepeated := by
  have hself : Entries.ofList (unrepeatedEntries es) = unrepeatedEntries es :=
    Entries.ofList_eq_self (by rwa [keys_unrepeatedEntries])
  rw [unrepeated, hself]
  exact get?_unrepeatedEntries

end Json

namespace Reader

variable {c c' mid : Cursor} {σ : Type}

/-! ### The whole text -/

theorem whole_eq_ok {r : Reader Json} {v : Json} (h : whole r c = .ok (v, c')) :
    ∃ mid, r c = .ok (v, mid) ∧ mid.trimmed.rest = [] := by
  obtain ⟨v', mid, hr, h⟩ := bind_eq_ok_iff.1 h
  rw [blanks_bind, peek?_bind] at h
  generalize ho : mid.trimmed.rest.head? = o at h
  split at h
  · obtain ⟨rfl, _⟩ := pure_eq_ok_iff.1 h
    exact ⟨mid, hr, List.head?_eq_none_iff.1 ho⟩
  · cases h

/-- A text that is read as a whole is one value with blanks around it. -/
theorem isText_of_whole {budget : Nat} {v : Json} (h : whole (value budget) c = .ok (v, c')) :
    Grammar.IsText c.rest := by
  obtain ⟨mid, hvalue, hend⟩ := whole_eq_ok h
  obtain ⟨_, hrest, before, value, rfl, hbefore, hvalue⟩ := takes_skip (skip_of_value hvalue)
  obtain ⟨after, hrest', hafter⟩ := takes_trimmed mid
  rw [hend, List.append_nil] at hrest'
  rw [hrest, hrest']
  exact .intro hbefore hvalue hafter

/-! ### Fields and entries -/

section Fields

variable {r : Reader Json} {field : σ → String → Reader σ} {state : Entries Json → σ}
  {entries : Entries Json}

/-- The reader of a field goes along with the reader of entries, whichever of them comes next:
`state` is what it makes of the entries that it has seen. -/
def GoesAlong (r : Reader Json) (field : σ → String → Reader σ) (state : Entries Json → σ)
    (entries : Entries Json) : Prop :=
  ∀ seen k v later c mid c', entries = seen ++ (k, v) :: later → colon c = .ok ((), mid) →
    r mid = .ok (v, c') → field (state seen) k c = .ok (state (seen ++ [(k, v)]), c')

theorem Loop.fields_of_pairs (hfield : GoesAlong r field state entries) {n : Nat} {first : Bool}
    {acc acc' : List (String × Json)}
    (h : Loop (fun first => (nextKey first).under .unknown) (fun acc k => do
      colon
      return (k, ← r.under (.key k)) :: acc) n first acc c acc' c')
    (hentries : acc'.reverse = entries) :
    acc <:+ acc' ∧ Loop (fun first => (nextKey first).under .unknown) field n first
      (state acc.reverse) c (state entries) c' := by
  induction h with
  | done hnext => exact ⟨List.suffix_refl _, hentries ▸ .done hnext⟩
  | more hnext hitem _ ih =>
    obtain ⟨_, mid, hcolon, hitem⟩ := bind_eq_ok_iff.1 hitem
    obtain ⟨v, mid', hv, hitem⟩ := bind_eq_ok_iff.1 hitem
    obtain ⟨rfl, rfl⟩ := pure_eq_ok_iff.1 hitem
    obtain ⟨hsuffix, hloop⟩ := ih hentries
    rw [List.reverse_cons] at hloop
    refine ⟨(List.suffix_cons _ _).trans hsuffix, .more hnext ?_ hloop⟩
    -- What comes later is known from the end of the run only.
    obtain ⟨later, hlater⟩ := hsuffix
    refine hfield _ _ v later.reverse _ mid _ ?_ hcolon (under_eq_ok_iff.1 hv)
    rw [← hentries, ← hlater, List.reverse_append, List.reverse_cons, List.append_assoc,
      List.singleton_append]

/-- The fields of an object are read along with its entries. -/
theorem fields_of_pairs (hfield : GoesAlong r field state entries)
    (h : pairs r c = .ok (entries, c')) :
    fields field (state []) c = .ok (state entries, c') := by
  obtain ⟨reversed, mid, hitems, h⟩ := bind_eq_ok_iff.1 h
  obtain ⟨hreverse, rfl⟩ := pure_eq_ok_iff.1 h
  obtain ⟨n, hn, hloop⟩ := items_eq_ok_iff.1 hitems
  exact items_eq_ok_iff.2 ⟨n, hn, (hloop.fields_of_pairs hfield hreverse).2⟩

end Fields

theorem fieldOnce_eq_ok {α : Type} {r : Reader α} {a : α} {name : String}
    (hcolon : colon c = .ok ((), mid)) (h : r mid = .ok (a, c')) :
    fieldOnce name none r c = .ok (some a, c') :=
  bind_eq_ok_iff.2 ⟨(), mid, hcolon, bind_eq_ok_iff.2 ⟨a, c', under_eq_ok_iff.2 h, rfl⟩⟩

theorem otherField_eq_ok {name : String} (hcolon : colon c = .ok ((), mid))
    (h : skip mid = .ok ((), c')) : otherField name c = .ok ((), c') :=
  bind_eq_ok_iff.2 ⟨(), mid, hcolon, under_eq_ok_iff.2 h⟩

/-! ### Places for records -/

theorem scalar_eq_ok {v : Json} (h : scalar c = .ok (v, c')) :
    (v = .null ∧ c.rest.head? = some 'n' ∧ literal "ull" c = .ok ((), c')) ∨
      (v ≠ .null ∧ ∀ ps, v ≠ .obj ps) := by
  unfold scalar at h
  rw [peek?_bind] at h
  generalize c.rest.head? = o at h ⊢
  split at h
  · obtain ⟨rfl, hliteral⟩ := andThen_pure_eq_ok_iff.1 h
    exact .inl ⟨rfl, rfl, hliteral⟩
  · obtain ⟨rfl, _⟩ := andThen_pure_eq_ok_iff.1 h
    exact .inr ⟨nofun, nofun⟩
  · obtain ⟨rfl, _⟩ := andThen_pure_eq_ok_iff.1 h
    exact .inr ⟨nofun, nofun⟩
  · rw [advance_bind] at h
    obtain ⟨s, _, _, h⟩ := bind_eq_ok_iff.1 h
    obtain ⟨rfl, _⟩ := pure_eq_ok_iff.1 h
    exact .inr ⟨nofun, nofun⟩
  · split at h
    · obtain ⟨x, _, _, h⟩ := bind_eq_ok_iff.1 h
      obtain ⟨rfl, _⟩ := pure_eq_ok_iff.1 h
      exact .inr ⟨nofun, nofun⟩
    · cases h
  · cases h

theorem value_trimmed (budget : Nat) : value budget c.trimmed = value budget c := by
  unfold value
  rw [blanks_bind, blanks_bind, Cursor.trimmed_trimmed]

/-- An object is read by its opening brace. -/
theorem pairs_of_value {budget : Nat} {ps : List (String × Json)}
    (h : value budget c = .ok (.obj ps, c')) :
    ∃ inner, budget = inner + 1 ∧ c.trimmed.rest.head? = some '\x7b' ∧
      pairs (value inner) c.trimmed.next = .ok (ps, c') := by
  obtain ⟨_, _, _, hv, _⟩ | ⟨inner, _, hbudget, hv, hopen, hps⟩ | hscalar := value_eq_ok h
  · cases hv
  · cases hv
    exact ⟨inner, hbudget, hopen, hps⟩
  · obtain ⟨hv, _⟩ | ⟨_, hv⟩ := scalar_eq_ok hscalar
    · cases hv
    · exact absurd rfl (hv ps)

theorem map_of_value {budget : Nat} {ps : List (String × Json)}
    (h : value budget c = .ok (.obj ps, c')) : map budget c = .ok (ps, c') := by
  obtain ⟨inner, rfl, hopen, hps⟩ := pairs_of_value h
  unfold map
  rw [blanks_bind, peek?_bind, hopen]
  exact hps

theorem nullable_of_null {α : Type} {r : Reader α} {budget : Nat}
    (h : value budget c = .ok (.null, c')) : nullable r c = .ok (none, c') := by
  obtain ⟨_, _, _, hv, _⟩ | ⟨_, _, _, hv, _⟩ | hscalar := value_eq_ok h
  · cases hv
  · cases hv
  obtain ⟨_, hn, hliteral⟩ | ⟨hv, _⟩ := scalar_eq_ok hscalar
  · unfold nullable
    rw [blanks_bind, peek?_bind, hn]
    exact andThen_pure_eq_ok_iff.2 ⟨rfl, hliteral⟩
  · exact absurd rfl hv

theorem nullable_of_obj {α : Type} {r : Reader α} {a : α} {budget : Nat}
    {ps : List (String × Json)} (h : value budget c = .ok (.obj ps, c'))
    (hr : r c.trimmed = .ok (a, c')) : nullable r c = .ok (some a, c') := by
  obtain ⟨_, _, hopen, _⟩ := pairs_of_value h
  unfold nullable
  rw [blanks_bind, peek?_bind, hopen]
  exact bind_eq_ok_iff.2 ⟨a, c', hr, rfl⟩

/-- What can stand in a place for records: null or an object. -/
inductive IsPlace : Json → Prop
  | null : IsPlace .null
  | obj (ps : List (String × Json)) : IsPlace (.obj ps)

/-- What can stand under `components`: null or an object in which keys stand once, with an object
under `schemas` if that is there. -/
inductive IsComponents : Json → Prop
  | null : IsComponents .null
  | obj {inner : Entries Json} (hkeys : inner.keys.Nodup)
      (hschemas : ∀ v, inner.get? "schemas" = some v → ∃ ps, v = .obj ps) :
      IsComponents (.obj inner)

/-- What has been seen of `schemas` after these entries. -/
def schemasSeen (seen : Entries Json) : Option (List (String × Json)) :=
  (seen.get? "schemas").map fun v => v.asObject?.getD []

/-- The component schemas; none if there is null in their place. -/
def componentsOf : Json → Option (List (String × Json))
  | .obj inner => some ((schemasSeen inner).getD [])
  | _ => none

/-- What has been seen of the two places of a document after these entries. -/
def placesSeen (seen : Entries Json) :
    Option (Option (List (String × Json))) × Option (Option (List (String × Json))) :=
  ((seen.get? "definitions").map Json.asObject?, (seen.get? "components").map componentsOf)

section Seen

variable {seen : Entries Json} {k : String}

theorem schemasSeen_concat (h : seen.get? k = none) (v : Json) : schemasSeen (seen ++ [(k, v)]) =
    if k = "schemas" then some (v.asObject?.getD []) else schemasSeen seen := by
  unfold schemasSeen
  rw [Entries.get?_concat h]
  split <;> rfl

theorem placesSeen_concat (h : seen.get? k = none) (v : Json) : placesSeen (seen ++ [(k, v)]) =
    (if k = "definitions" then some v.asObject? else (placesSeen seen).1,
      if k = "components" then some (componentsOf v) else (placesSeen seen).2) := by
  unfold placesSeen
  rw [Entries.get?_concat h, Entries.get?_concat h, Prod.mk.injEq]
  constructor <;> split <;> rfl

end Seen

theorem definitions_of_value {budget : Nat} {v : Json} (hv : IsPlace v)
    (h : value budget c = .ok (v, c')) : nullable (map budget) c = .ok (v.asObject?, c') := by
  cases hv with
  | null => exact nullable_of_null h
  | obj ps =>
    refine nullable_of_obj h (map_of_value ?_)
    rwa [value_trimmed]

theorem components_of_value {budget : Nat} {inner : Entries Json}
    (h : value (budget + 1) c = .ok (.obj inner, c')) (hkeys : inner.keys.Nodup)
    (hschemas : ∀ v, inner.get? "schemas" = some v → ∃ ps, v = .obj ps) :
    components budget c = .ok ((schemasSeen inner).getD [], c') := by
  obtain ⟨_, hbudget, hopen, hpairs⟩ := pairs_of_value h
  obtain rfl := Nat.succ.inj hbudget
  unfold components
  rw [blanks_bind, peek?_bind, hopen]
  show (advance >>= fun _ => _) c.trimmed = _
  rw [advance_bind, bind_eq_ok_iff]
  suffices halong : GoesAlong (value budget) _ schemasSeen inner from
    ⟨schemasSeen inner, c', fields_of_pairs halong hpairs, rfl⟩
  intro seen k v later c mid c' hsplit hcolon hvalue
  obtain ⟨hnew, hget⟩ := Entries.get?_of_split hkeys hsplit
  rw [schemasSeen_concat hnew]
  beta_reduce
  by_cases hk : k = "schemas"
  · obtain ⟨ps, rfl⟩ := hschemas v (hk ▸ hget)
    have hseen : schemasSeen seen = none := by
      rw [schemasSeen, ← hk, hnew, Option.map_none]
    rw [if_pos hk, if_pos hk, hseen]
    exact fieldOnce_eq_ok hcolon (map_of_value hvalue)
  · -- The value was read without trouble, so that it can be passed over.
    rw [if_neg hk, if_neg hk]
    exact andThen_pure_eq_ok_iff.2 ⟨rfl, otherField_eq_ok hcolon (skip_of_value hvalue)⟩

theorem nullable_components_of_value {budget : Nat} {v : Json} (hv : IsComponents v)
    (h : value budget c = .ok (v, c')) :
    nullable (components (budget - 1)) c = .ok (componentsOf v, c') := by
  cases hv with
  | null => exact nullable_of_null h
  | obj hkeys hschemas =>
    obtain ⟨inner, rfl, _⟩ := pairs_of_value h
    refine nullable_of_obj h (components_of_value ?_ hkeys hschemas)
    rwa [value_trimmed]

/-- **What the document reader finds in the two places is what stands there.** -/
theorem document_of_value {budget : Nat} {entries : Entries Json}
    (h : value (budget + 1) c = .ok (.obj entries, c')) (hkeys : entries.keys.Nodup)
    (hdefinitions : ∀ v, entries.get? "definitions" = some v → IsPlace v)
    (hcomponents : ∀ v, entries.get? "components" = some v → IsComponents v) :
    document budget c =
      .ok (⟨(placesSeen entries).1.join, (placesSeen entries).2.join⟩, c') := by
  obtain ⟨_, hbudget, hopen, hpairs⟩ := pairs_of_value h
  obtain rfl := Nat.succ.inj hbudget
  unfold document
  rw [blanks_bind, peek?_bind, hopen]
  show (advance >>= fun _ => _) c.trimmed = _
  rw [advance_bind, bind_eq_ok_iff]
  suffices halong : GoesAlong (value budget) _ placesSeen entries from
    ⟨placesSeen entries, c', fields_of_pairs halong hpairs, rfl⟩
  intro seen k v later c mid c' hsplit hcolon hvalue
  obtain ⟨hnew, hget⟩ := Entries.get?_of_split hkeys hsplit
  rw [placesSeen_concat hnew]
  -- Keys stand once, so that neither place is met for the second time.
  obtain ⟨hseen, hseen'⟩ : (k = "definitions" → (placesSeen seen).1 = none) ∧
      (k = "components" → (placesSeen seen).2 = none) := by
    constructor <;> (rintro rfl; rw [placesSeen, hnew, Option.map_none])
  generalize placesSeen seen = places at hseen hseen' ⊢
  obtain ⟨seenDefinitions, seenComponents⟩ := places
  dsimp only at hseen hseen' ⊢
  by_cases hk : k = "definitions"
  · have hother : ¬ k = "components" := fun heq => absurd (hk.symm.trans heq) (by decide)
    have hplace := definitions_of_value (hdefinitions v (hk ▸ hget)) hvalue
    rw [if_pos hk, if_pos hk, if_neg hother, hseen hk]
    exact bind_eq_ok_iff.2 ⟨_, _, fieldOnce_eq_ok hcolon hplace, rfl⟩
  · by_cases hk' : k = "components"
    · have hplace := nullable_components_of_value (hcomponents v (hk' ▸ hget)) hvalue
      rw [if_neg hk, if_neg hk, if_pos hk', if_pos hk', hseen' hk']
      exact bind_eq_ok_iff.2 ⟨_, _, fieldOnce_eq_ok hcolon hplace, rfl⟩
    · rw [if_neg hk, if_neg hk, if_neg hk', if_neg hk']
      exact andThen_pure_eq_ok_iff.2 ⟨rfl, otherField_eq_ok hcolon (skip_of_value hvalue)⟩

end Reader

namespace Schema

open Reader

variable {text pointer : String} {entries : Entries Json}

/-! ### The same records -/

/-- There is nothing in a place, or null. -/
def Vacant (place : Option Json) : Prop :=
  place = none ∨ place = some .null

theorem whole_of_rawOfText? {v : Json} (h : Json.rawOfText? text = .ok v) :
    ∃ c', whole (value nestingLimit) (Cursor.ofText text) = .ok (v, c') := by
  obtain ⟨⟨v', c'⟩, hwhole, rfl⟩ := Except.map_eq_ok_iff.1 h
  exact ⟨c', hwhole⟩

theorem ofList_ofList (pairs : List (String × Json)) :
    ofList (Entries.ofList pairs) = ofList pairs := by
  have hrecords := Entries.ofList_eq_self (Entries.keys_nodup_ofList pairs)
  simp only [ofList, hrecords]

/-- A pointer that leads to an object loads its entries. -/
theorem select_eq_ok {v : Json} {ps : List (String × Json)} (htext : Json.rawOfText? text = .ok v)
    (hselect : Pointer.select v.unrepeated pointer = some (Json.unrepeated (.obj ps))) :
    select text pointer = .ok (ofList (Json.unrepeatedEntries ps)) := by
  have hread : Json.ofText? text = .ok v.unrepeated := by
    rw [Json.ofText?, htext]
    rfl
  rw [Json.unrepeated] at hselect
  unfold select
  rw [hread]
  dsimp only
  rw [hselect, ← ofList_ofList]

theorem select_definitions {defs : List (String × Json)} (hkeys : entries.keys.Nodup)
    (hdefs : entries.get? "definitions" = some (.obj defs)) :
    Pointer.select (Json.unrepeated (.obj entries)) "/definitions" =
      some (Json.unrepeated (.obj defs)) := by
  have hsteps : Pointer.steps? "/definitions" = some ["definitions"] := by decide
  rw [Pointer.select, hsteps, Option.bind_some, List.foldlM_cons, Json.enter_unrepeated hkeys,
    hdefs]
  rfl

theorem select_schemas {inner : Entries Json} {schemas : List (String × Json)}
    (hkeys : entries.keys.Nodup) (hcomponents : entries.get? "components" = some (.obj inner))
    (hinner : inner.keys.Nodup) (hschemas : inner.get? "schemas" = some (.obj schemas)) :
    Pointer.select (Json.unrepeated (.obj entries)) "/components/schemas" =
      some (Json.unrepeated (.obj schemas)) := by
  have hsteps : Pointer.steps? "/components/schemas" = some ["components", "schemas"] := by decide
  rw [Pointer.select, hsteps, Option.bind_some, List.foldlM_cons, Json.enter_unrepeated hkeys,
    hcomponents, Option.map_some, Option.bind_eq_bind, Option.bind_some, List.foldlM_cons,
    Json.enter_unrepeated hinner, hschemas]
  rfl

theorem detect_eq (htext : Json.rawOfText? text = .ok (.obj entries)) (hkeys : entries.keys.Nodup)
    (hdefinitions : ∀ v, entries.get? "definitions" = some v → IsPlace v)
    (hcomponents : ∀ v, entries.get? "components" = some v → IsComponents v) :
    detect text = match (placesSeen entries).1.join <|> (placesSeen entries).2.join with
      | some pairs => .ok (ofList (Json.unrepeatedEntries pairs))
      | none => .error .noRecords := by
  obtain ⟨_, hwhole⟩ := whole_of_rawOfText? htext
  obtain ⟨mid, hvalue, _⟩ := whole_eq_ok hwhole
  have hdocument : (document (nestingLimit - 1)).run (Cursor.ofText text) = _ :=
    document_of_value hvalue hkeys hdefinitions hcomponents
  unfold detect
  rw [hdocument]
  rfl

theorem detect_definitions {defs : List (String × Json)}
    (htext : Json.rawOfText? text = .ok (.obj entries)) (hkeys : entries.keys.Nodup)
    (hdefs : entries.get? "definitions" = some (.obj defs))
    (hcomponents : ∀ v, entries.get? "components" = some v → IsComponents v) :
    detect text = .ok (ofList (Json.unrepeatedEntries defs)) := by
  have hplace : ∀ v, entries.get? "definitions" = some v → IsPlace v := by
    intro v hv
    obtain rfl := Option.some.inj (hdefs.symm.trans hv)
    exact .obj defs
  have hfound : (placesSeen entries).1.join = some defs := by
    rw [placesSeen, hdefs]
    rfl
  rw [detect_eq htext hkeys hplace hcomponents, hfound]
  rfl

theorem Vacant.eq_null {place : Option Json} (h : Vacant place) {v : Json} (hv : place = some v) :
    v = .null := by
  obtain rfl | rfl := h
  · cases hv
  · exact (Option.some.inj hv).symm

/-- Nothing is seen in a vacant place. -/
theorem Vacant.join_eq_none {α : Type} {place : Option Json} (h : Vacant place)
    {view : Json → Option α} (hview : view .null = none) : (place.map view).join = none := by
  obtain rfl | rfl := h
  · rfl
  · rw [Option.map_some, hview]
    rfl

theorem detect_schemas {inner : Entries Json} {schemas : List (String × Json)}
    (htext : Json.rawOfText? text = .ok (.obj entries)) (hkeys : entries.keys.Nodup)
    (hdefinitions : Vacant (entries.get? "definitions"))
    (hcomponents : entries.get? "components" = some (.obj inner)) (hinner : inner.keys.Nodup)
    (hschemas : inner.get? "schemas" = some (.obj schemas)) :
    detect text = .ok (ofList (Json.unrepeatedEntries schemas)) := by
  have hplace : ∀ v, entries.get? "definitions" = some v → IsPlace v :=
    fun v hv => hdefinitions.eq_null hv ▸ .null
  have hplace' : ∀ v, entries.get? "components" = some v → IsComponents v := by
    intro v hv
    obtain rfl := Option.some.inj (hcomponents.symm.trans hv)
    exact .obj hinner fun w hw => ⟨schemas, Option.some.inj (hw.symm.trans hschemas)⟩
  have hmissed : (placesSeen entries).1.join = none := hdefinitions.join_eq_none rfl
  have hfound : (placesSeen entries).2.join = some schemas := by
    rw [placesSeen, hcomponents, Option.map_some, componentsOf, schemasSeen, hschemas]
    rfl
  rw [detect_eq htext hkeys hplace hplace', hmissed, hfound]
  rfl

theorem detect_nothing (htext : Json.rawOfText? text = .ok (.obj entries))
    (hkeys : entries.keys.Nodup) (hdefinitions : Vacant (entries.get? "definitions"))
    (hcomponents : Vacant (entries.get? "components")) : detect text = .error .noRecords := by
  have hplace : ∀ v, entries.get? "definitions" = some v → IsPlace v :=
    fun v hv => hdefinitions.eq_null hv ▸ .null
  have hplace' : ∀ v, entries.get? "components" = some v → IsComponents v :=
    fun v hv => hcomponents.eq_null hv ▸ .null
  have hmissed : (placesSeen entries).1.join = none := hdefinitions.join_eq_none rfl
  have hmissed' : (placesSeen entries).2.join = none := hcomponents.join_eq_none rfl
  rw [detect_eq htext hkeys hplace hplace', hmissed, hmissed']
  rfl

/-- **Without a pointer the same records are loaded** as with a pointer to the place that is
detected. -/
theorem detection_agrees (htext : Json.rawOfText? text = .ok (.obj entries))
    (hkeys : entries.keys.Nodup)
    (hinner : ∀ inner : Entries Json, entries.get? "components" = some (.obj inner) →
      inner.keys.Nodup) :
    (∀ defs, entries.get? "definitions" = some (.obj defs) →
      (Vacant (entries.get? "components") ∨
        ∃ inner : Entries Json, entries.get? "components" = some (.obj inner) ∧
          (inner.get? "schemas" = none ∨ ∃ schemas, inner.get? "schemas" = some (.obj schemas))) →
      ∃ s, ofDocument text none = .ok s ∧ ofDocument text (some "/definitions") = .ok s) ∧
    (∀ (inner : Entries Json) (schemas : List (String × Json)),
      Vacant (entries.get? "definitions") → entries.get? "components" = some (.obj inner) →
      inner.get? "schemas" = some (.obj schemas) →
      ∃ s, ofDocument text none = .ok s ∧ ofDocument text (some "/components/schemas") = .ok s) ∧
    (Vacant (entries.get? "definitions") → Vacant (entries.get? "components") →
      ofDocument text none = .error (.document .noRecords)) := by
  have hok : ∀ {s pointer}, detect text = .ok s → select text pointer = .ok s →
      ∃ s, ofDocument text none = .ok s ∧ ofDocument text (some pointer) = .ok s := by
    intro s pointer hdetect hselect
    exact ⟨s, Except.mapError_eq_ok_iff.2 hdetect, Except.mapError_eq_ok_iff.2 hselect⟩
  refine ⟨?_, ?_, ?_⟩
  · intro defs hdefs hcomponents
    have hplace : ∀ v, entries.get? "components" = some v → IsComponents v := by
      intro v hv
      obtain hvacant | ⟨inner, hobj, hschemas⟩ := hcomponents
      · exact hvacant.eq_null hv ▸ .null
      · obtain rfl := Option.some.inj (hobj.symm.trans hv)
        refine .obj (hinner inner hobj) fun w hw => ?_
        obtain hnone | ⟨schemas, hsome⟩ := hschemas
        · cases hnone.symm.trans hw
        · exact ⟨schemas, Option.some.inj (hw.symm.trans hsome)⟩
    exact hok (detect_definitions htext hkeys hdefs hplace)
      (select_eq_ok htext (select_definitions hkeys hdefs))
  · intro inner schemas hdefinitions hcomponents hschemas
    have hnodup := hinner inner hcomponents
    exact hok (detect_schemas htext hkeys hdefinitions hcomponents hnodup hschemas)
      (select_eq_ok htext (select_schemas hkeys hcomponents hnodup hschemas))
  · intro hdefinitions hcomponents
    have hdetect := detect_nothing htext hkeys hdefinitions hcomponents
    exact Except.mapError_eq_error_iff.2 ⟨_, hdetect, rfl⟩

/-- A document with more than its records, one of which comes twice. -/
def twiceDefined : String :=
  "\x7b\"v\":[],\"definitions\":\x7b\"A\":[],\"B\":[],\"A\":\x7b\x7d\x7d,\"components\":null\x7d"

/-- A document with records among its components only. -/
def componentsOnly : String :=
  "\x7b\"components\":\x7b\"v\":[],\"schemas\":\x7b\"A\":[]\x7d\x7d\x7d"

/-- A document without records. -/
def nothingDefined : String :=
  "\x7b\"definitions\":null,\"v\":[]\x7d"

theorem detection_agrees_documents :
    (∃ s, ofDocument twiceDefined none = .ok s ∧
      ofDocument twiceDefined (some "/definitions") = .ok s) ∧
    (∃ s, ofDocument componentsOnly none = .ok s ∧
      ofDocument componentsOnly (some "/components/schemas") = .ok s) ∧
    ofDocument nothingDefined none = .error (.document .noRecords) := by
  have htwice : Json.rawOfText? twiceDefined = .ok (.obj [
      ("v", .arr []),
      ("definitions", .obj [("A", .arr []), ("B", .arr []), ("A", .obj [])]),
      ("components", .null)]) := Except.toOption_eq_some_iff.1 (by decide +kernel)
  have hcomponents : Json.rawOfText? componentsOnly = .ok (.obj [
      ("components", .obj [("v", .arr []), ("schemas", .obj [("A", .arr [])])])]) :=
    Except.toOption_eq_some_iff.1 (by decide +kernel)
  have hnothing : Json.rawOfText? nothingDefined = .ok (.obj [
      ("definitions", .null), ("v", .arr [])]) :=
    Except.toOption_eq_some_iff.1 (by decide +kernel)
  refine ⟨?_, ?_, ?_⟩
  · have hinner : ∀ inner : Entries Json, some Json.null = some (.obj inner) →
        inner.keys.Nodup := by
      intro inner heq
      cases heq
    exact (detection_agrees htwice (by decide) hinner).1 _ rfl (.inl (.inr rfl))
  · have hinner : ∀ inner : Entries Json,
        some (Json.obj [("v", .arr []), ("schemas", .obj [("A", .arr [])])]) = some (.obj inner) →
          inner.keys.Nodup := by
      intro inner heq
      cases heq
      decide
    exact (detection_agrees hcomponents (by decide) hinner).2.1 _ _ (.inl rfl) rfl rfl
  · have hinner : ∀ inner : Entries Json, none = some (Json.obj inner) → inner.keys.Nodup := by
      intro inner heq
      cases heq
    exact (detection_agrees hnothing (by decide) hinner).2.2 (.inr rfl) (.inl rfl)

/-! ### What follows a document -/

/-- With a pointer, the whole text is one value. -/
theorem isText_of_select {s : Schema} (h : select text pointer = .ok s) :
    Grammar.IsText text.toList := by
  unfold select at h
  split at h
  · cases h
  · next j hread =>
    obtain ⟨v, hraw, _⟩ := Except.map_eq_ok_iff.1 hread
    obtain ⟨_, hwhole⟩ := whole_of_rawOfText? hraw
    exact isText_of_whole hwhole

theorem document_of_detect {s : Schema} (h : detect text = .ok s) :
    ∃ d c', document (nestingLimit - 1) (Cursor.ofText text) = .ok (d, c') := by
  unfold detect at h
  split at h
  · cases h
  · next d c' hdocument => exact ⟨d, c', hdocument⟩

/-- Without a pointer, the text begins with one value. -/
theorem exists_isText_of_detect {s : Schema} (h : detect text = .ok s) :
    ∃ doc rest, text.toList = doc ++ rest ∧ Grammar.IsText doc := by
  obtain ⟨d, c', hdocument⟩ := document_of_detect h
  obtain ⟨_, hrest, blanks, value, rfl, hblanks, hvalue⟩ :=
    takes_skip (skip_of_document hdocument)
  refine ⟨blanks ++ value ++ [], c'.rest, ?_, .intro hblanks hvalue nofun⟩
  rw [List.append_nil]
  exact hrest

/-- Without a pointer, what follows the document has no say. -/
theorem detect_append {s : Schema} (h : detect text = .ok s) (more : String) :
    detect (text ++ more) = .ok s := by
  obtain ⟨d, c', hdocument⟩ := document_of_detect h
  have hextend := (extends_document _ d c' hdocument).2 (.inl trivial)
  have hcursor : Cursor.ofText (text ++ more) = (Cursor.ofText text).extend more.toList := by
    rw [Cursor.ofText, String.toList_append]
    rfl
  have hdocument' : (document (nestingLimit - 1)).run (Cursor.ofText (text ++ more)) =
      .ok (d, c'.extend more.toList) := by
    rw [hcursor]
    exact hextend.2 more.toList
  have hrun : (document (nestingLimit - 1)).run (Cursor.ofText text) = .ok (d, c') := hdocument
  unfold detect at h ⊢
  rw [hrun] at h
  rw [hdocument']
  exact h

/-- **What is loaded is one value, as far as it is looked at.**  With a pointer, a text that is not
one value is rejected.  Without one, the records are those of the value that the text begins with,
and any text may follow. -/
theorem loaded_text (text : String) :
    (∀ pointer, ¬ Grammar.IsText text.toList →
      ∃ e, ofDocument text (some pointer) = .error (.document e)) ∧
    ∀ s, ofDocument text none = .ok s →
      (∃ doc rest, text.toList = doc ++ rest ∧ Grammar.IsText doc) ∧
        ∀ more, ofDocument (text ++ more) none = .ok s := by
  constructor
  · intro pointer htext
    cases hselect : select text pointer with
    | error e => exact ⟨e, Except.mapError_eq_error_iff.2 ⟨e, hselect, rfl⟩⟩
    | ok s => exact absurd (isText_of_select hselect) htext
  · intro s h
    have hdetect : detect text = .ok s := Except.mapError_eq_ok_iff.1 h
    refine ⟨exists_isText_of_detect hdetect, fun more => ?_⟩
    exact Except.mapError_eq_ok_iff.2 (detect_append hdetect more)

/-- A document with a comma after it. -/
def trailingComma : String :=
  "\x7b\"definitions\":\x7b\x7d\x7d,"

theorem trailingComma_loaded :
    ¬ ∀ text pointer s, ofDocument text pointer = .ok s → Grammar.IsText text.toList := by
  intro h
  have hloads : (ofDocument trailingComma none).toOption.isSome := by decide +kernel
  obtain ⟨s, hload⟩ := Option.isSome_iff_exists.1 hloads
  have htext := h trailingComma none s (Except.toOption_eq_some_iff.1 hload)
  have hlast : trailingComma.toList.getLast? = some ',' := by decide
  exact htext.getLast?_ne_comma hlast

end Schema

end SchemaCompiler
