import SchemaCompiler.SourceFile

/-!
# Writing to a sink

A sink of fixed capacity takes the bytes that fit and then nothing more.  A file is written chunk by
chunk; the first chunk that does not fit ends the writing, and the bytes of it that fit stay.
-/

namespace SchemaCompiler

/-- The UTF-8 bytes of a text. -/
def utf8Bytes (s : String) : List UInt8 :=
  s.toUTF8.data.toList

/-- A sink with room for `capacity` bytes, some of it used. -/
structure Sink where
  capacity : Nat
  written : List UInt8
  fits : written.length ≤ capacity

namespace Sink

/-- A sink with nothing in it. -/
def empty (capacity : Nat) : Sink :=
  ⟨capacity, [], Nat.zero_le _⟩

/-- The room that is left. -/
def room (s : Sink) : Nat :=
  s.capacity - s.written.length

/-- Takes the bytes that fit; tells whether these were all. -/
def take (s : Sink) (bytes : List UInt8) : Sink × Bool :=
  (⟨s.capacity, s.written ++ bytes.take s.room, by
      have := s.fits
      have := List.length_take_le s.room bytes
      simp only [List.length_append, room] at *
      omega⟩,
    bytes.length ≤ s.room)

/-- Writes chunks until one does not fit. -/
def write (s : Sink) : List String → Sink × Except Error Unit
  | [] => (s, .ok ())
  | chunk :: rest =>
    match s.take (utf8Bytes chunk) with
    | (s, true) => s.write rest
    | (s, false) => (s, .error .sinkFull)

end Sink

end SchemaCompiler
