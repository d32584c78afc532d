import SchemaCompiler.Proofs.Compile

/-!
# What a sink receives

A file is written in chunks, and the sink may be full in the middle of any of them.  Where the
chunks begin and end makes no difference: the sink ends up with the text of the file, cut once at
the room that there was (`Sink.written_write`), and writing succeeds exactly if nothing was cut off
(`Sink.result_write`).  For a schema that compiles, this is what generating comes to; one that does
not compile leaves the sink alone (`Schema.generate_fills_sink`).
-/

namespace SchemaCompiler

@[simp] theorem utf8Bytes_append (s t : String) :
    utf8Bytes (s ++ t) = utf8Bytes s ++ utf8Bytes t := by
  simp [utf8Bytes]

/-- The bytes of chunks that are written one after the other. -/
theorem utf8Bytes_concat_cons (chunk : String) (rest : List String) :
    utf8Bytes (Text.concat (chunk :: rest)) = utf8Bytes chunk ++ utf8Bytes (Text.concat rest) := by
  rw [Text.concat, utf8Bytes_append]

namespace Sink

/-! ### One chunk -/

theorem written_take (s : Sink) (bytes : List UInt8) :
    (s.take bytes).1.written = s.written ++ bytes.take s.room := rfl

/-- What fits takes up its length. -/
theorem room_take {s : Sink} {bytes : List UInt8} (h : bytes.length ≤ s.room) :
    (s.take bytes).1.room = s.room - bytes.length := by
  have hlength : (bytes.take s.room).length = bytes.length := by
    rw [List.take_of_length_le h]
  simp only [room, take, List.length_append] at *
  omega

/-- Writing goes on after a chunk that fits, and ends with one that does not. -/
theorem write_cons (s : Sink) (chunk : String) (rest : List String) :
    s.write (chunk :: rest) =
      if (utf8Bytes chunk).length ≤ s.room then (s.take (utf8Bytes chunk)).1.write rest
      else ((s.take (utf8Bytes chunk)).1, .error .sinkFull) := by
  rw [write]
  by_cases h : (utf8Bytes chunk).length ≤ s.room <;> simp [take, h]

/-! ### All chunks -/

/-- **The sink holds as much of the whole text as there was room for.** -/
theorem written_write (s : Sink) (chunks : List String) :
    (s.write chunks).1.written = s.written ++ (utf8Bytes (Text.concat chunks)).take s.room := by
  induction chunks generalizing s with
  | nil => simp [write, Text.concat, utf8Bytes]
  | cons chunk rest ih =>
    rw [write_cons, utf8Bytes_concat_cons, List.take_append]
    by_cases h : (utf8Bytes chunk).length ≤ s.room
    · -- The chunk is taken whole, and the rest gets what room is left.
      rw [if_pos h, ih, written_take, room_take h, List.append_assoc]
    · -- The chunk uses up the room, so that nothing of the rest would fit.
      have hfull : s.room - (utf8Bytes chunk).length = 0 := by omega
      rw [if_neg h, written_take, hfull, List.take_zero, List.append_nil]

/-- **Writing succeeds exactly if the whole text fits.** -/
theorem result_write (s : Sink) (chunks : List String) :
    (s.write chunks).2 =
      if (utf8Bytes (Text.concat chunks)).length ≤ s.room then .ok () else .error .sinkFull := by
  induction chunks generalizing s with
  | nil => simp [write, Text.concat, utf8Bytes]
  | cons chunk rest ih =>
    rw [write_cons, utf8Bytes_concat_cons, List.length_append]
    by_cases h : (utf8Bytes chunk).length ≤ s.room
    · have hrest : (utf8Bytes (Text.concat rest)).length ≤ s.room - (utf8Bytes chunk).length ↔
          (utf8Bytes chunk).length + (utf8Bytes (Text.concat rest)).length ≤ s.room := by omega
      rw [if_pos h, ih, room_take h]
      simp only [hrest]
    · have hmore : ¬ (utf8Bytes chunk).length + (utf8Bytes (Text.concat rest)).length ≤ s.room := by
        omega
      rw [if_neg h, if_neg hmore]

end Sink

namespace Schema

/-! ### Generating -/

/-- **A schema that does not compile leaves the sink alone; one that does fills it with its text.**
Generating then succeeds exactly if the text fits, and whether or not it does, the sink holds the
text up to its capacity. -/
theorem generate_fills_sink (s : Schema) (o : Options) (n : Nat) :
    (∀ e, s.compile o = .error e → s.generate o (.empty n) = (.empty n, .error e)) ∧
    ∀ file, s.compile o = .ok file →
      ((s.generate o (.empty n)).2 = .ok () ↔ (utf8Bytes file.text).length ≤ n) ∧
      ((s.generate o (.empty n)).2 = .ok () ∨ (s.generate o (.empty n)).2 = .error .sinkFull) ∧
      (s.generate o (.empty n)).1.written =
        (utf8Bytes file.text).take (min n (utf8Bytes file.text).length) := by
  refine ⟨fun e he => ?_, fun file hfile => ?_⟩
  · rw [generate, he]
  · have hgenerate : s.generate o (.empty n) = (Sink.empty n).write file.chunks := by
      rw [generate, hfile]
    have hroom : (Sink.empty n).room = n := rfl
    have hresult : (s.generate o (.empty n)).2 =
        if (utf8Bytes file.text).length ≤ n then .ok () else .error .sinkFull := by
      rw [hgenerate, Sink.result_write, hroom, SourceFile.text_eq_concat_chunks]
    have hwritten : (s.generate o (.empty n)).1.written = (utf8Bytes file.text).take n := by
      rw [hgenerate, Sink.written_write, hroom, SourceFile.text_eq_concat_chunks]
      rfl
    rw [hresult, hwritten, ← List.take_eq_take_min]
    by_cases h : (utf8Bytes file.text).length ≤ n <;> simp [h]

/-- A sink of five bytes is full in the middle of the prologue, and keeps the five. -/
theorem petShop_fills_sink :
    ∃ file, petShop.compile ⟨.cpp none, none⟩ = .ok file ∧
      (petShop.generate ⟨.cpp none, none⟩ (.empty 5)).2 = .error .sinkFull ∧
      (petShop.generate ⟨.cpp none, none⟩ (.empty 5)).1.written = utf8Bytes "//\n//" := by
  have hplan : petShop.plan = .ok petShopPlan := by with_unfolding_all rfl
  obtain ⟨file, hfile, hprologue⟩ : ∃ file, petShop.compile ⟨.cpp none, none⟩ = .ok file ∧
      file.prologue = (Target.cpp none).prologue "amber_models" :=
    ⟨_, compile_eq_ok_iff.2 ⟨petShopPlan, hplan, by rfl, rfl⟩, rfl⟩
  -- The text begins with the prologue, which is longer than the sink.
  have htext : utf8Bytes file.text = utf8Bytes ((Target.cpp none).prologue "amber_models") ++
      utf8Bytes (Text.concat (file.units.map SourceUnit.text ++ [file.epilogue])) := by
    rw [← hprologue, SourceFile.text_eq_concat_chunks]
    exact utf8Bytes_concat_cons _ _
  have hlong : 5 < (utf8Bytes ((Target.cpp none).prologue "amber_models")).length := by
    decide +kernel
  have hlonger : 5 < (utf8Bytes file.text).length := by
    rw [htext, List.length_append]
    omega
  obtain ⟨hfits, hresult, hwritten⟩ := (generate_fills_sink petShop ⟨.cpp none, none⟩ 5).2 _ hfile
  refine ⟨file, hfile, hresult.resolve_left fun h => absurd (hfits.1 h) (by omega), ?_⟩
  rw [hwritten, Nat.min_eq_left hlonger.le, htext, List.take_append_of_le_length hlong.le]
  decide +kernel

end Schema

end SchemaCompiler
