/-! Slices of a source by byte offsets. A slice is cut between character boundaries, in order and
inside the source; between other offsets there is none. -/
namespace ModalLexer.Text

def bytes (source : String) : List UInt8 := source.toByteArray.data.toList

abbrev Boundary (source : String) (offset : Nat) : Prop := String.Pos.Raw.IsValid source ⟨offset⟩

def slice? (source : String) (start stop : Nat) : Option String :=
  if within : Boundary source start ∧ Boundary source stop ∧ start ≤ stop then
    some (source.extract (source.pos ⟨start⟩ within.1) (source.pos ⟨stop⟩ within.2.1))
  else none

def bytesFrom? (source : String) (start : Nat) : Option (List UInt8) :=
  if start ≤ source.utf8ByteSize then some ((bytes source).drop start) else none

theorem sliceSize {source text : String} {start stop : Nat}
    (cut : slice? source start stop = some text) : text.utf8ByteSize = stop - start := by
  unfold slice? at cut
  split at cut <;> cases cut
  next within =>
    have inside : stop ≤ source.utf8ByteSize := within.2.1.le_utf8ByteSize
    rw [← String.size_toByteArray, String.toByteArray_extract, ByteArray.size_extract,
      String.size_toByteArray, String.offset_pos, String.offset_pos, Nat.min_eq_left inside]

end ModalLexer.Text
