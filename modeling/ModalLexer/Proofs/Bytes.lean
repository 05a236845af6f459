import ModalLexer.Cursor
import ModalLexer.Proofs.Offset

/-! Bytes and characters. Every byte of a character beyond ASCII is itself beyond ASCII, so a scan for
ASCII bytes stops where the scan for those characters does, and never inside a character. -/
namespace ModalLexer
open Text

def encode (text : List Char) : List UInt8 := text.flatMap String.utf8EncodeChar

theorem encodeLength (text : List Char) : (encode text).length = utf8Size text := by
  induction text with
  | nil => rfl
  | cons c rest ih =>
    rw [encode, List.flatMap_cons, List.length_append, ← encode, ih, String.length_utf8EncodeChar,
      utf8SizeCons]

theorem bytesEncode (source : String) : bytes source = encode source.toList := by
  rw [bytes, ← String.utf8Encode_toList, List.utf8Encode, List.toList_data_toByteArray, encode]

theorem bytesAhead {source : String} {passed rest : List Char}
    (whole : source.toList = passed ++ rest) :
    (bytes source).drop (utf8Size passed) = encode rest := by
  rw [bytesEncode, whole, encode, List.flatMap_append, ← encode, ← encodeLength,
    List.drop_left]
  rfl

theorem boundaryPlace {source : String} {passed rest : List Char}
    (whole : source.toList = passed ++ rest) : Boundary source (utf8Size passed) := by
  rw [Boundary, String.Pos.Raw.isValid_iff_exists_append]
  refine ⟨String.ofList passed, String.ofList rest, ?_, ?_⟩
  · rw [← String.ofList_append, ← whole, String.ofList_toList]
  · rw [← utf8SizeOfList]
    rfl

theorem sliceExact {source : String} {passed text rest : List Char}
    (whole : source.toList = passed ++ (text ++ rest)) :
    slice? source (utf8Size passed) (utf8Size passed + utf8Size text) =
      some (String.ofList text) := by
  have start := boundaryPlace whole
  have stop : Boundary source (utf8Size passed + utf8Size text) := by
    rw [← utf8SizeAppend]
    rw [← List.append_assoc] at whole
    exact boundaryPlace whole
  have ahead := bytesAhead whole
  rw [slice?, dif_pos ⟨start, stop, Nat.le_add_right _ _⟩, Option.some_inj, ← String.toByteArray_inj,
    String.toByteArray_extract, String.toByteArray_ofList, List.utf8Encode]
  apply ByteArray.ext
  apply Array.toList_inj.mp
  rw [List.toList_data_toByteArray, ByteArray.data_extract, Array.toList_extract, List.extract,
    String.offset_pos, String.offset_pos, ← bytes, ahead, encode, List.flatMap_append,
    Nat.add_sub_cancel_left, ← encodeLength]
  exact List.take_left

theorem asciiEncode {c : Char} (ascii : c.toNat < 128) :
    String.utf8EncodeChar c = [c.val.toUInt8] ∧ c.val.toUInt8.toNat = c.toNat := by
  have small : c.val.toNat < 128 := ascii
  refine ⟨String.utf8EncodeChar_eq_singleton (sizeOne.mpr ascii), ?_⟩
  rw [UInt32.toNat_toUInt8]
  exact Nat.mod_eq_of_lt (by omega)

theorem highByte (b mark : UInt8) (high : 128 ≤ mark.toNat) : 128 ≤ (b ||| mark).toNat := by
  rw [UInt8.toNat_or]
  exact Nat.le_trans high Nat.right_le_or

theorem highEncode {c : Char} (beyond : 128 ≤ c.toNat) :
    ∀ b ∈ String.utf8EncodeChar c, 128 ≤ b.toNat := by
  intro b member
  rcases c.utf8Size_eq with one | two | three | four
  · exact absurd (sizeOne.mp one) (Nat.not_lt.mpr beyond)
  · rw [String.utf8EncodeChar_eq_cons_cons two] at member
    simp only [List.mem_cons, List.not_mem_nil, or_false] at member
    rcases member with rfl | rfl <;> exact highByte _ _ (by decide)
  · rw [String.utf8EncodeChar_eq_cons_cons_cons three] at member
    simp only [List.mem_cons, List.not_mem_nil, or_false] at member
    rcases member with rfl | rfl | rfl <;> exact highByte _ _ (by decide)
  · rw [String.utf8EncodeChar_eq_cons_cons_cons_cons four] at member
    simp only [List.mem_cons, List.not_mem_nil, or_false] at member
    rcases member with rfl | rfl | rfl | rfl <;> exact highByte _ _ (by decide)

structure Agree (test : UInt8 → Bool) (p : Char → Bool) (code : Nat → Prop) : Prop where
  bytes : ∀ b, test b = true ↔ code b.toNat
  chars : ∀ c, p c = true ↔ code c.toNat
  beyond : ∀ n m, 128 ≤ n → 128 ≤ m → (code n ↔ code m)

theorem agreeEncode {test : UInt8 → Bool} {p : Char → Bool} {code : Nat → Prop}
    (agree : Agree test p code) (c : Char) : ∀ b ∈ String.utf8EncodeChar c, test b = p c := by
  intro b member
  rw [Bool.eq_iff_iff, agree.bytes, agree.chars]
  by_cases small : c.toNat < 128
  · obtain ⟨single, same⟩ := asciiEncode small
    rw [single, List.mem_singleton] at member
    rw [member, same]
  · have beyond := Nat.le_of_not_lt small
    exact agree.beyond _ _ (highEncode beyond b member) beyond

theorem scanEncode {test : UInt8 → Bool} {p : Char → Bool} {code : Nat → Prop}
    (agree : Agree test p code) (text : List Char) :
    (encode text).takeWhile test = encode (text.takeWhile p) := by
  induction text with
  | nil => rfl
  | cons c rest ih =>
    have same := agreeEncode agree c
    rw [encode, List.flatMap_cons, ← encode]
    cases holds : p c with
    | true =>
      rw [List.takeWhile_append_of_pos (fun b member => (same b member).trans holds), ih,
        List.takeWhile_cons_of_pos holds]
      rfl
    | false =>
      have long := String.length_utf8EncodeChar c
      have positive := c.utf8Size_pos
      cases first : String.utf8EncodeChar c with
      | nil => rw [first, List.length_nil] at long; omega
      | cons b more =>
        have stops : test b = false := (same b (by simp [first])).trans holds
        simp [stops, holds, encode]

theorem numeralsAgree :
    Agree isNumeralByte isNumeral fun n => 48 ≤ n ∧ n ≤ 57 ∨ n = 46 := by
  refine ⟨?_, ?_, by omega⟩
  · intro b
    simp only [isNumeralByte, Bool.or_eq_true, Bool.and_eq_true, decide_eq_true_eq, beq_iff_eq,
      UInt8.le_iff_toNat_le, ← UInt8.toNat_inj]
    rfl
  · intro c
    simp only [isNumeral, Char.isDigit, Bool.or_eq_true, Bool.and_eq_true, decide_eq_true_eq,
      beq_iff_eq, UInt32.le_iff_toNat_le, ← Char.toNat_inj]
    rfl

theorem runsAgree : Agree (fun b => !endsRun b) inRun fun n => n ≠ 32 ∧ n ≠ 35 := by
  refine ⟨?_, ?_, by omega⟩
  · intro b
    simp only [endsRun, Bool.not_or, Bool.and_eq_true, Bool.not_eq_true', beq_eq_false_iff_ne, ne_eq,
      ← UInt8.toNat_inj]
    rfl
  · intro c
    simp only [inRun, Bool.and_eq_true, bne_iff_ne, ne_eq, ← Char.toNat_inj]
    rfl

theorem marksAgree : Agree (· == markByte) (· == switchMark) (· = 35) := by
  refine ⟨?_, ?_, by omega⟩
  · intro b
    rw [beq_iff_eq, ← UInt8.toNat_inj]
    rfl
  · intro c
    rw [beq_iff_eq, ← Char.toNat_inj]
    rfl

theorem markAhead (text : List Char) :
    (encode text).head? = some markByte ↔ text.head? = some switchMark := by
  cases text with
  | nil => simp [encode]
  | cons c rest =>
    have long := String.length_utf8EncodeChar c
    have positive := c.utf8Size_pos
    cases bytes : String.utf8EncodeChar c with
    | nil => rw [bytes, List.length_nil] at long; omega
    | cons b more =>
      have same := agreeEncode marksAgree c b (by simp [bytes])
      rw [Bool.eq_iff_iff, beq_iff_eq, beq_iff_eq] at same
      simp [encode, bytes, same]

theorem findTaken (test : UInt8 → Bool) (bytes : List UInt8) :
    bytes.findIdx test = (bytes.takeWhile fun b => !test b).length := by
  induction bytes with
  | nil => rfl
  | cons b rest ih => cases found : test b <;> simp [List.findIdx_cons, found, ih]

theorem runScan (text : List Char) :
    (encode text).findIdx endsRun = utf8Size (text.takeWhile inRun) := by
  rw [findTaken, scanEncode runsAgree, encodeLength]

theorem numeralScan (text : List Char) :
    ((encode text).takeWhile isNumeralByte).length = utf8Size (text.takeWhile isNumeral) := by
  rw [scanEncode numeralsAgree, encodeLength]

end ModalLexer
