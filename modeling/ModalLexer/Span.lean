/-! Byte ranges of a source. An offset is a 32-bit number; what lies beyond is cut down to the
largest one, so sources past 4 GiB are still read and only their reported places blur. -/
namespace ModalLexer

def largestOffset : Nat := 0xFFFFFFFF

def clampOffset (offset : Nat) : Nat := min offset largestOffset

structure Span where
  start : Nat
  stop : Nat
  deriving DecidableEq, Repr, Inhabited

namespace Span

def between (start stop : Nat) : Span := ⟨clampOffset start, clampOffset stop⟩

def point (offset : Nat) : Span := ⟨offset, offset⟩

def isEmpty (s : Span) : Bool := s.start == s.stop

def size (s : Span) : Nat := s.stop - s.start

def text (s : Span) : String := toString s.start ++ ".." ++ toString s.stop

def shift (s : Span) (bytes : Nat) : Span := ⟨s.start + bytes, s.stop + bytes⟩

end Span

def utf8Size (text : List Char) : Nat := text.foldl (fun n c => n + c.utf8Size) 0

theorem clampOffsetExact {offset : Nat} (small : offset ≤ largestOffset) :
    clampOffset offset = offset := Nat.min_eq_left small

theorem utf8SizeFrom (text : List Char) (n : Nat) :
    text.foldl (fun n c => n + c.utf8Size) n = n + utf8Size text := by
  induction text generalizing n with
  | nil => rfl
  | cons c rest ih =>
    simp only [utf8Size, List.foldl_cons, Nat.zero_add]
    rw [ih, ih c.utf8Size, Nat.add_assoc]

@[simp] theorem utf8SizeNil : utf8Size [] = 0 := rfl

@[simp] theorem utf8SizeCons (c : Char) (rest : List Char) :
    utf8Size (c :: rest) = c.utf8Size + utf8Size rest := by
  rw [utf8Size, List.foldl_cons, utf8SizeFrom, Nat.zero_add]

@[simp] theorem utf8SizeAppend (left right : List Char) :
    utf8Size (left ++ right) = utf8Size left + utf8Size right := by
  induction left with
  | nil => simp
  | cons c rest ih => simp [ih, Nat.add_assoc]

theorem utf8SizeOfList (text : List Char) : (String.ofList text).utf8ByteSize = utf8Size text := by
  induction text with
  | nil => simp
  | cons c rest ih =>
    have split : String.ofList (c :: rest) = String.singleton c ++ String.ofList rest := by
      rw [String.singleton_eq_ofList, ← String.ofList_append]
      rfl
    rw [split, String.utf8ByteSize_append, String.utf8ByteSize_singleton, ih, utf8SizeCons]

theorem utf8SizeToList (text : String) : utf8Size text.toList = text.utf8ByteSize := by
  rw [← utf8SizeOfList, String.ofList_toList]

end ModalLexer
