import ModalLexer.Glyph
import ModalLexer.Mode
import ModalLexer.Token

/-! Pieces: tokens before their place in a source is known. Reading a piece looks at the mode and
at the text from here on, and at nothing else. -/
namespace ModalLexer

open Unicode (isLetter)

structure Piece where
  kind : Kind
  lexeme : List Char
  rest : List Char
  mode : Mode
  deriving DecidableEq, Repr

/-- Why the front of a text is no piece. The first field of each is the text passed over, before
the backslash for a word and all of it for a number. -/
inductive Snag where
  | danglingEscape (before : List Char)
  | escapedLetter (before : List Char) (letter : Char) (rest : List Char)
  | numberOverflow (digits rest : List Char)
  deriving DecidableEq, Repr

def largestNumber : Nat := 0x7FFFFFFFFFFFFFFF

def isNumeral (c : Char) : Bool := c.isDigit || c == '.'

def numberOf? (digits : List Char) : Option Nat :=
  if '.' ∈ digits then none
  else
    let value := Nat.ofDigitChars 10 digits 0
    if value ≤ largestNumber then some value else none

def inRun (c : Char) : Bool := c != ' ' && c != switchMark

namespace Piece

def closeWord (glyphs : List Glyph) (rest : List Char) : Except Snag Piece :=
  let closed := ⟨.word (String.ofList (glyphs.map Glyph.char)), Glyph.lexeme glyphs, rest, .basic⟩
  match rest with
  | [] => .ok closed
  | c :: after =>
    if c = escapeMark then
      match after with
      | [] => .error (.danglingEscape (Glyph.lexeme glyphs))
      | letter :: after => .error (.escapedLetter (Glyph.lexeme glyphs) letter after)
    else .ok closed

def word (text : List Char) : Except Snag Piece :=
  closeWord (Glyph.takeAll text).1 (Glyph.takeAll text).2

def number (text : List Char) : Except Snag Piece :=
  let digits := text.takeWhile isNumeral
  let rest := text.dropWhile isNumeral
  match numberOf? digits with
  | some value => .ok ⟨.number value, digits, rest, .basic⟩
  | none => .error (.numberOverflow digits rest)

/-- A run that stops at the switch mark is the last one, so the mode is basic before the mark. -/
def run (text : List Char) : Piece :=
  let lexeme := text.takeWhile inRun
  let rest := text.dropWhile inRun
  ⟨.word (String.ofList lexeme), lexeme, rest,
    if rest.head? = some switchMark then .basic else .extended⟩

def symbol (c : Char) (rest : List Char) (mode : Mode) : Piece := ⟨.symbol c, [c], rest, mode⟩

def read (mode : Mode) : List Char → Except Snag Piece
  | [] => .ok ⟨.eof, [], [], mode⟩
  | c :: rest =>
    if c = switchMark then .ok (symbol c rest mode.flipped)
    else
      match mode with
      | .extended => .ok (run (c :: rest))
      | .basic =>
        if isLetter c || c == escapeMark then word (c :: rest)
        else if c.isDigit then number (c :: rest)
        else .ok (symbol c rest .basic)

theorem closeWordParts {glyphs : List Glyph} {rest : List Char} {p : Piece}
    (ok : closeWord glyphs rest = .ok p) :
    p = ⟨.word (String.ofList (glyphs.map Glyph.char)), Glyph.lexeme glyphs, rest, .basic⟩ ∧
      rest.head? ≠ some escapeMark := by
  unfold closeWord at ok
  dsimp only at ok
  split at ok
  · cases ok; exact ⟨rfl, by simp⟩
  · split at ok
    · split at ok <;> cases ok
    · next plain => cases ok; exact ⟨rfl, by simpa using plain⟩

theorem wordSplits {text : List Char} {p : Piece} (ok : word text = .ok p) :
    p.lexeme ++ p.rest = text := by
  rw [(closeWordParts ok).1]
  exact Glyph.takeAllLexeme text

theorem numberSplits {text : List Char} {p : Piece} (ok : number text = .ok p) :
    p.lexeme ++ p.rest = text := by
  unfold number at ok
  dsimp only at ok
  split at ok <;> cases ok
  exact List.takeWhile_append_dropWhile

theorem readSplits {mode : Mode} {text : List Char} {p : Piece} (ok : read mode text = .ok p) :
    p.lexeme ++ p.rest = text := by
  unfold read at ok
  split at ok
  · cases ok; rfl
  · split at ok
    · cases ok; rfl
    · split at ok
      · cases ok; exact List.takeWhile_append_dropWhile
      · split at ok
        · exact wordSplits ok
        · split at ok
          · exact numberSplits ok
          · cases ok; rfl

theorem wordAdvances {c : Char} {rest : List Char} {p : Piece}
    (starts : isLetter c = true ∨ c = escapeMark) (ok : word (c :: rest) = .ok p) :
    p.lexeme ≠ [] := by
  obtain ⟨same, closed⟩ := closeWordParts ok
  subst same
  intro empty
  have bare : (Glyph.takeAll (c :: rest)).1 = [] := Glyph.lexemeEmpty empty
  have whole := Glyph.takeAllLexeme (c :: rest)
  rw [bare, Glyph.lexeme, List.flatMap_nil, List.nil_append] at whole
  have plain : c ≠ escapeMark := by simpa [whole] using closed
  have letter := starts.resolve_right plain
  have length := Glyph.takeOntoLength [.letter c] rest
  rw [Glyph.takeAll, Glyph.takeOnto.eq_def] at bare
  simp only [plain, letter, if_true, if_false] at bare
  simp [bare] at length

theorem readAdvances {mode : Mode} {text : List Char} {p : Piece}
    (unblank : text.head? ≠ some ' ') (ok : read mode text = .ok p) (more : p.kind ≠ .eof) :
    p.lexeme ≠ [] := by
  unfold read at ok
  split at ok
  · cases ok; contradiction
  · next c rest =>
    split at ok
    · cases ok; simp [symbol]
    · next plain =>
      split at ok
      · cases ok
        have starts : inRun c = true := by simpa [inRun, plain] using unblank
        simp [run, starts]
      · split at ok
        · next starts =>
          exact wordAdvances (by simpa [Bool.or_eq_true] using starts) ok
        · split at ok
          · next digit =>
            unfold number at ok
            dsimp only at ok
            split at ok <;> cases ok
            simp [isNumeral, digit]
          · cases ok; simp [symbol]

end Piece
end ModalLexer
