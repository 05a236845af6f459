import ModalLexer.Piece
import ModalLexer.Unicode.Blank

/-! Classes of characters, and the taking of glyphs: it stops only where no glyph starts, and gives
back whatever proper glyphs stand before such a place. -/
namespace ModalLexer
open Unicode (isBlank isLetter)

theorem takeWhileExact {p : Char → Bool} {left right : List Char} (inside : ∀ c ∈ left, p c = true)
    (stop : ∀ c ∈ right.head?, p c = false) : (left ++ right).takeWhile p = left := by
  rw [List.takeWhile_append_of_pos inside]
  cases right with
  | nil => simp
  | cons c rest => simp [stop c rfl]

theorem dropWhileExact {p : Char → Bool} {left right : List Char} (inside : ∀ c ∈ left, p c = true)
    (stop : ∀ c ∈ right.head?, p c = false) : (left ++ right).dropWhile p = right := by
  rw [List.dropWhile_append_of_pos inside]
  cases right with
  | nil => rfl
  | cons c rest => simp [stop c rfl]

theorem headAfterDrop (p : Char → Bool) (text : List Char) :
    ∀ c ∈ (text.dropWhile p).head?, p c = false := by
  intro c head
  have stopped := List.head?_dropWhile_not p text
  rw [Option.mem_def.mp head] at stopped
  simpa using stopped

theorem letterAbove {c : Char} (letter : isLetter c = true) : 65 ≤ c.toNat := by
  have ascending : Unicode.Ranges.ascendFrom 65 Unicode.letters = true := by decide +kernel
  obtain ⟨r, member, lower, _⟩ := (Unicode.Ranges.containsExact ascending c.toNat).mp letter
  exact Nat.le_trans (Unicode.Ranges.ascendingAbove ascending r member) lower

theorem digitBelow {c : Char} (digit : c.isDigit = true) : c.toNat < 65 := by
  simp only [Char.isDigit, Bool.and_eq_true, decide_eq_true_eq, UInt32.le_iff_toNat_le] at digit
  have upper : c.toNat ≤ 57 := digit.2
  omega

theorem digitNoLetter {c : Char} (digit : c.isDigit = true) : isLetter c = false := by
  have below := digitBelow digit
  cases letter : isLetter c with
  | false => rfl
  | true => have above := letterAbove letter; omega

theorem escapeNoLetter : isLetter escapeMark = false := by decide +kernel

theorem letterNoEscape {c : Char} (letter : isLetter c = true) : c ≠ escapeMark := by
  intro same
  rw [same, escapeNoLetter] at letter
  contradiction

theorem letterNoMark {c : Char} (letter : isLetter c = true) : c ≠ switchMark := by
  intro same
  have above := letterAbove letter
  rw [same] at above
  exact absurd above (by decide)

theorem digitNoMark {c : Char} (digit : c.isDigit = true) : c ≠ switchMark := by
  rintro rfl
  exact absurd digit (by decide)

theorem digitNoEscape {c : Char} (digit : c.isDigit = true) : c ≠ escapeMark := by
  rintro rfl
  exact absurd digit (by decide)

theorem digitNoDot {c : Char} (digit : c.isDigit = true) : c ≠ '.' := by
  rintro rfl
  exact absurd digit (by decide)

theorem letterNoBlank {c : Char} (letter : isLetter c = true) : isBlank c = false := by
  rw [← Bool.not_eq_true]
  intro blank
  obtain ⟨r, member, lower, upper⟩ :=
    (Unicode.Ranges.containsExact Unicode.blanksAscend c.toNat).mp blank
  have apart : ∀ r ∈ Unicode.blanks, ∀ n < r.2 + 1 - r.1, Unicode.letters.contains (r.1 + n) = false := by
    decide +kernel
  have other := apart r member (c.toNat - r.1) (by omega)
  rw [Nat.add_sub_cancel' lower] at other
  exact absurd letter (Bool.eq_false_iff.mp other)

theorem digitNoBlank {c : Char} (digit : c.isDigit = true) : isBlank c = false := by
  rw [← Bool.not_eq_true]
  intro blank
  obtain ⟨r, member, lower, upper⟩ :=
    (Unicode.Ranges.containsExact Unicode.blanksAscend c.toNat).mp blank
  have apart : ∀ r ∈ Unicode.blanks, r.2 < 48 ∨ 57 < r.1 := by decide
  have bounds : 48 ≤ c.toNat ∧ c.toNat ≤ 57 := Char.isDigit_iff_toNat.mp digit
  rcases apart r member with below | above <;> omega

theorem numeralNoBlank {c : Char} (numeral : isNumeral c = true) : isBlank c = false := by
  rw [isNumeral, Bool.or_eq_true, beq_iff_eq] at numeral
  rcases numeral with digit | rfl
  · exact digitNoBlank digit
  · decide

theorem runInside (c : Char) : inRun c = true ↔ c ≠ ' ' ∧ c ≠ switchMark := by
  simp [inRun]

theorem runOutside (c : Char) : inRun c = false ↔ c = ' ' ∨ c = switchMark := by
  simp [inRun, Classical.or_iff_not_imp_left]

theorem digitNumeral {c : Char} (digit : c.isDigit = true) : isNumeral c = true := by
  simp [isNumeral, digit]

theorem numeralExact (c : Char) : isNumeral c = false ↔ c.isDigit = false ∧ c ≠ '.' := by
  simp [isNumeral]

namespace Glyph

inductive Halt : List Char → Prop where
  | nil : Halt []
  | slash : Halt [escapeMark]
  | letter {letter rest} (escaped : isLetter letter = true) : Halt (escapeMark :: letter :: rest)
  | plain {c rest} (noLetter : isLetter c = false) (noEscape : c ≠ escapeMark) : Halt (c :: rest)

theorem haltOfHead {text : List Char} (stop : ∀ c ∈ text.head?, isLetter c = false ∧ c ≠ escapeMark) :
    Halt text := by
  cases text with
  | nil => exact .nil
  | cons c rest => exact .plain (stop c rfl).1 (stop c rfl).2

theorem takeOntoHalt {text : List Char} (halt : Halt text) (taken : List Glyph) :
    takeOnto taken text = (taken.reverse, text) := by
  cases halt with
  | nil => rfl
  | slash => rfl
  | letter escaped => simp [takeOnto, escaped]
  | plain noLetter noEscape => rw [takeOnto.eq_def]; simp [noLetter, noEscape]

theorem takeOntoHalts (taken : List Glyph) (text : List Char) : Halt (takeOnto taken text).2 := by
  fun_induction takeOnto taken text with
  | case1 => exact .nil
  | case2 => exact .slash
  | case3 _ _ _ escaped => exact .letter escaped
  | case4 _ _ _ _ ih => exact ih
  | case5 _ _ _ _ _ ih => exact ih
  | case6 _ _ _ noEscape noLetter => exact .plain (by simpa using noLetter) noEscape

theorem takeOntoProper {taken : List Glyph} (proper : ∀ g ∈ taken, Proper g) (text : List Char) :
    ∀ g ∈ (takeOnto taken text).1, Proper g := by
  fun_induction takeOnto taken text with
  | case1 | case2 | case3 | case6 => simpa using proper
  | case4 taken e after noLetter ih =>
    apply ih
    intro g member
    rcases List.mem_cons.mp member with rfl | old
    · simpa [Proper] using noLetter
    · exact proper g old
  | case5 taken c rest noEscape letter ih =>
    apply ih
    intro g member
    rcases List.mem_cons.mp member with rfl | old
    · exact letter
    · exact proper g old

theorem takeAllProper (text : List Char) : ∀ g ∈ (takeAll text).1, Proper g :=
  takeOntoProper (by simp) text

theorem takeOntoLexemes {glyphs : List Glyph} (proper : ∀ g ∈ glyphs, Proper g)
    (taken : List Glyph) (rest : List Char) :
    takeOnto taken (lexeme glyphs ++ rest) = takeOnto (glyphs.reverse ++ taken) rest := by
  induction glyphs generalizing taken with
  | nil => rfl
  | cons g tail ih =>
    have head := proper g (by simp)
    have later : ∀ x ∈ tail, Proper x := fun x member => proper x (List.mem_cons_of_mem _ member)
    have more := ih later (g :: taken)
    cases g with
    | letter c =>
      have plain := letterNoEscape head
      have whole : lexeme (.letter c :: tail) ++ rest = c :: (lexeme tail ++ rest) := rfl
      rw [whole, takeOnto.eq_def]
      simp only [plain, if_false, show isLetter c = true from head, if_true, more]
      simp
    | escaped c =>
      have whole : lexeme (.escaped c :: tail) ++ rest = escapeMark :: c :: (lexeme tail ++ rest) := rfl
      rw [whole, takeOnto.eq_def]
      simp only [if_true, show isLetter c = false from head, Bool.false_eq_true, if_false, more]
      simp

theorem takeAllExact {glyphs : List Glyph} (proper : ∀ g ∈ glyphs, Proper g) {rest : List Char}
    (halt : Halt rest) : takeAll (lexeme glyphs ++ rest) = (glyphs, rest) := by
  rw [takeAll, takeOntoLexemes proper, takeOntoHalt halt]
  simp

theorem lexemeStarts {glyphs : List Glyph} (proper : ∀ g ∈ glyphs, Proper g) (filled : glyphs ≠ [])
    (rest : List Char) :
    ∃ c tail, lexeme glyphs ++ rest = c :: tail ∧ (isLetter c = true ∨ c = escapeMark) := by
  cases glyphs with
  | nil => contradiction
  | cons g more =>
    have head := proper g (by simp)
    cases g with
    | letter c => exact ⟨c, lexeme more ++ rest, rfl, .inl head⟩
    | escaped c => exact ⟨escapeMark, c :: (lexeme more ++ rest), rfl, .inr rfl⟩

theorem lexemeNoSlash {glyphs : List Glyph} (proper : ∀ g ∈ glyphs, Proper g) (filled : glyphs ≠ [])
    (rest : List Char) : lexeme glyphs ++ rest ≠ [escapeMark] := by
  cases glyphs with
  | nil => contradiction
  | cons g more =>
    have head := proper g (by simp)
    cases g with
    | letter c =>
      intro same
      exact letterNoEscape head (List.cons.inj same).1
    | escaped c => simp [lexeme, spelling]

end Glyph
end ModalLexer
