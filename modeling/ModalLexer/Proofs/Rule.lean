import ModalLexer.Proofs.Glyph

/-! The rules of tokens. A rule looks at the characters of a token and at the one character after
them; an obstacle is a text that starts no token. Reading a piece agrees with both. -/
namespace ModalLexer
open Unicode (isLetter)

/-- `Rule mode kind lexeme follow next`: in `mode` the characters `lexeme`, with `follow` after
them, are a token of `kind`, and the text goes on in the mode `next`. -/
inductive Rule : Mode → Kind → List Char → Option Char → Mode → Prop where
  | mark (mode follow) : Rule mode (.symbol switchMark) [switchMark] follow mode.flipped
  | run {lexeme follow} (filled : lexeme ≠ [])
      (inside : ∀ c ∈ lexeme, c ≠ ' ' ∧ c ≠ switchMark)
      (stop : ∀ c ∈ follow, c = ' ' ∨ c = switchMark) :
      Rule .extended (.word (String.ofList lexeme)) lexeme follow
        (if follow = some switchMark then .basic else .extended)
  | word {glyphs follow} (filled : glyphs ≠ []) (proper : ∀ g ∈ glyphs, Glyph.Proper g)
      (stop : ∀ c ∈ follow, isLetter c = false ∧ c ≠ escapeMark) :
      Rule .basic (.word (String.ofList (glyphs.map Glyph.char))) (Glyph.lexeme glyphs) follow .basic
  | number {digits follow} (filled : digits ≠ []) (inside : ∀ c ∈ digits, c.isDigit = true)
      (stop : ∀ c ∈ follow, c.isDigit = false ∧ c ≠ '.')
      (fits : Nat.ofDigitChars 10 digits 0 ≤ largestNumber) :
      Rule .basic (.number (Nat.ofDigitChars 10 digits 0)) digits follow .basic
  | symbol {c follow} (noLetter : isLetter c = false) (noDigit : c.isDigit = false)
      (noEscape : c ≠ escapeMark) (noMark : c ≠ switchMark) :
      Rule .basic (.symbol c) [c] follow .basic

inductive Obstacle : List Char → Snag → Prop where
  | dangling {glyphs} (proper : ∀ g ∈ glyphs, Glyph.Proper g) :
      Obstacle (Glyph.lexeme glyphs ++ [escapeMark]) (.danglingEscape (Glyph.lexeme glyphs))
  | letter {glyphs letter rest} (proper : ∀ g ∈ glyphs, Glyph.Proper g)
      (escaped : isLetter letter = true) :
      Obstacle (Glyph.lexeme glyphs ++ escapeMark :: letter :: rest)
        (.escapedLetter (Glyph.lexeme glyphs) letter rest)
  | overflow {first digits rest} (start : first.isDigit = true)
      (inside : ∀ c ∈ first :: digits, isNumeral c = true)
      (stop : ∀ c ∈ rest.head?, isNumeral c = false)
      (large : '.' ∈ first :: digits ∨ largestNumber < Nat.ofDigitChars 10 (first :: digits) 0) :
      Obstacle (first :: digits ++ rest) (.numberOverflow (first :: digits) rest)

namespace Piece

theorem readMark (mode : Mode) (rest : List Char) :
    read mode (switchMark :: rest) = .ok (symbol switchMark rest mode.flipped) := by
  simp [read]

theorem readRun {c : Char} (noMark : c ≠ switchMark) (rest : List Char) :
    read .extended (c :: rest) = .ok (run (c :: rest)) := by
  simp [read, noMark]

theorem readWord {c : Char} (starts : isLetter c = true ∨ c = escapeMark) (rest : List Char) :
    read .basic (c :: rest) = word (c :: rest) := by
  have noMark : c ≠ switchMark := by
    rcases starts with letter | rfl
    · exact letterNoMark letter
    · decide
  simp [read, noMark, starts]

theorem readNumber {c : Char} (digit : c.isDigit = true) (rest : List Char) :
    read .basic (c :: rest) = number (c :: rest) := by
  simp [read, digitNoMark digit, digitNoLetter digit, digitNoEscape digit, digit]

theorem readSymbol {c : Char} (noLetter : isLetter c = false) (noDigit : c.isDigit = false)
    (noEscape : c ≠ escapeMark) (noMark : c ≠ switchMark) (rest : List Char) :
    read .basic (c :: rest) = .ok (symbol c rest .basic) := by
  simp [read, noLetter, noDigit, noEscape, noMark]

theorem wordTaken {glyphs : List Glyph} (proper : ∀ g ∈ glyphs, Glyph.Proper g) {rest : List Char}
    (halt : Glyph.Halt rest) : word (Glyph.lexeme glyphs ++ rest) = closeWord glyphs rest := by
  rw [word, Glyph.takeAllExact proper halt]

theorem closeWordPlain {rest : List Char}
    (stop : ∀ c ∈ rest.head?, isLetter c = false ∧ c ≠ escapeMark) (glyphs : List Glyph) :
    closeWord glyphs rest =
      .ok ⟨.word (String.ofList (glyphs.map Glyph.char)), Glyph.lexeme glyphs, rest, .basic⟩ := by
  cases rest with
  | nil => rfl
  | cons c after => simp [closeWord, (stop c rfl).2]

theorem numberExact {digits rest : List Char} (inside : ∀ c ∈ digits, isNumeral c = true)
    (stop : ∀ c ∈ rest.head?, isNumeral c = false) :
    number (digits ++ rest) =
      match numberOf? digits with
      | some value => .ok ⟨.number value, digits, rest, .basic⟩
      | none => .error (.numberOverflow digits rest) := by
  cases found : numberOf? digits with
  | some value => simp [number, takeWhileExact inside stop, dropWhileExact inside stop, found]
  | none => simp [number, takeWhileExact inside stop, dropWhileExact inside stop, found]

theorem numberFits {digits : List Char} (inside : ∀ c ∈ digits, c.isDigit = true)
    (fits : Nat.ofDigitChars 10 digits 0 ≤ largestNumber) :
    numberOf? digits = some (Nat.ofDigitChars 10 digits 0) := by
  have noDot : '.' ∉ digits := fun member => digitNoDot (inside _ member) rfl
  simp [numberOf?, noDot, fits]

theorem numberParts {digits : List Char} {value : Nat} (ok : numberOf? digits = some value) :
    '.' ∉ digits ∧ value = Nat.ofDigitChars 10 digits 0 ∧ value ≤ largestNumber := by
  unfold numberOf? at ok
  dsimp only at ok
  split at ok <;> try contradiction
  split at ok <;> try contradiction
  rename_i noDot fits
  cases Option.some.inj ok
  exact ⟨noDot, rfl, fits⟩

theorem numberLarge {digits : List Char} :
    numberOf? digits = none ↔ '.' ∈ digits ∨ largestNumber < Nat.ofDigitChars 10 digits 0 := by
  unfold numberOf?
  dsimp only
  split
  · simp [*]
  · split
    · simp [*]
    · simp [*]
      omega

theorem ruleRead {mode kind lexeme rest next} (rule : Rule mode kind lexeme rest.head? next) :
    read mode (lexeme ++ rest) = .ok ⟨kind, lexeme, rest, next⟩ := by
  generalize same : rest.head? = follow at rule
  cases rule with
  | mark => exact readMark mode rest
  | run filled inside stop =>
    have within : ∀ c ∈ lexeme, inRun c = true := fun c member =>
      (runInside c).mpr (inside c member)
    have ends : ∀ c ∈ rest.head?, inRun c = false := fun c head =>
      (runOutside c).mpr (stop c (same ▸ head))
    cases lexeme with
    | nil => contradiction
    | cons c more =>
      rw [List.cons_append, readRun (inside c (by simp)).2, ← List.cons_append, run,
        takeWhileExact within ends, dropWhileExact within ends, same]
  | @word glyphs _ filled proper stop =>
    subst same
    obtain ⟨c, tail, whole, starts⟩ := Glyph.lexemeStarts proper filled rest
    rw [whole, readWord starts, ← whole, wordTaken proper (Glyph.haltOfHead stop),
      closeWordPlain stop]
  | number filled inside stop fits =>
    have within : ∀ c ∈ lexeme, isNumeral c = true := fun c member =>
      digitNumeral (inside c member)
    have ends : ∀ c ∈ rest.head?, isNumeral c = false := fun c head =>
      (numeralExact c).mpr (stop c (same ▸ head))
    cases lexeme with
    | nil => contradiction
    | cons c more =>
      rw [List.cons_append, readNumber (inside c (by simp)), ← List.cons_append,
        numberExact within ends, numberFits inside fits]
  | symbol noLetter noDigit noEscape noMark =>
    exact readSymbol noLetter noDigit noEscape noMark rest

theorem runRule {c : Char} {rest : List Char} (noSpace : c ≠ ' ') (noMark : c ≠ switchMark) :
    let p := run (c :: rest)
    Rule .extended p.kind p.lexeme p.rest.head? p.mode := by
  have starts : inRun c = true := (runInside c).mpr ⟨noSpace, noMark⟩
  apply Rule.run
  · simp [starts]
  · intro x member
    exact (runInside x).mp (List.all_eq_true.mp List.all_takeWhile x member)
  · intro x head
    exact (runOutside x).mp (headAfterDrop inRun (c :: rest) x head)

theorem wordRule {c : Char} {rest : List Char} {p : Piece}
    (starts : isLetter c = true ∨ c = escapeMark) (ok : word (c :: rest) = .ok p) :
    Rule .basic p.kind p.lexeme p.rest.head? p.mode := by
  have filled := wordAdvances starts ok
  obtain ⟨same, closed⟩ := closeWordParts ok
  subst same
  refine Rule.word (fun bare => filled ?_) (Glyph.takeAllProper _) ?_
  · rw [bare]; rfl
  -- A halt that no backslash starts is an end or a plain character.
  · intro x head
    have halt := Glyph.takeOntoHalts [] (c :: rest)
    rw [← Glyph.takeAll] at halt
    generalize (Glyph.takeAll (c :: rest)).2 = after at halt head closed
    cases halt with
    | nil => simp at head
    | slash | letter => simp at closed
    | plain noLetter noEscape => cases head; exact ⟨noLetter, noEscape⟩

theorem numeralsSplit (text : List Char) :
    number text = number (text.takeWhile isNumeral ++ text.dropWhile isNumeral) := by
  rw [List.takeWhile_append_dropWhile]

theorem takenNumerals (text : List Char) : ∀ c ∈ text.takeWhile isNumeral, isNumeral c = true :=
  List.all_eq_true.mp List.all_takeWhile

theorem numberRule {c : Char} {rest : List Char} {p : Piece} (digit : c.isDigit = true)
    (ok : number (c :: rest) = .ok p) : Rule .basic p.kind p.lexeme p.rest.head? p.mode := by
  have stop := headAfterDrop isNumeral (c :: rest)
  have taken := takenNumerals (c :: rest)
  rw [numeralsSplit, numberExact taken stop] at ok
  split at ok <;> cases ok
  rename_i value found
  obtain ⟨noDot, same, fits⟩ := numberParts found
  subst same
  refine Rule.number ?_ ?_ ?_ fits
  · simp [isNumeral, digit]
  · intro x member
    have numeral := taken x member
    have plain : x ≠ '.' := fun dot => noDot (dot ▸ member)
    simpa [isNumeral, plain] using numeral
  · intro x head
    exact (numeralExact x).mp (stop x head)

theorem readRule {mode : Mode} {c : Char} {rest : List Char} {p : Piece} (noSpace : c ≠ ' ')
    (ok : read mode (c :: rest) = .ok p) : Rule mode p.kind p.lexeme p.rest.head? p.mode := by
  by_cases noMark : c = switchMark
  · subst c
    rw [readMark] at ok
    cases ok
    exact .mark mode _
  cases mode with
  | extended =>
    rw [readRun noMark] at ok
    cases ok
    exact runRule noSpace noMark
  | basic =>
    by_cases starts : isLetter c = true ∨ c = escapeMark
    · rw [readWord starts] at ok
      exact wordRule starts ok
    · by_cases digit : c.isDigit = true
      · rw [readNumber digit] at ok
        exact numberRule digit ok
      · obtain ⟨noLetter, noEscape⟩ := not_or.mp starts
        simp only [Bool.not_eq_true] at noLetter digit
        rw [readSymbol noLetter digit noEscape noMark] at ok
        cases ok
        exact .symbol noLetter digit noEscape noMark

theorem closeWordObstacle {glyphs : List Glyph} {rest : List Char} {snag : Snag}
    (proper : ∀ g ∈ glyphs, Glyph.Proper g) (halt : Glyph.Halt rest)
    (failed : closeWord glyphs rest = .error snag) : Obstacle (Glyph.lexeme glyphs ++ rest) snag := by
  cases halt with
  | nil => simp [closeWord] at failed
  | slash =>
    simp only [closeWord, if_true] at failed
    cases failed
    exact .dangling proper
  | letter escaped =>
    simp only [closeWord, if_true] at failed
    cases failed
    exact .letter proper escaped
  | plain noLetter noEscape => simp [closeWord, noEscape] at failed

theorem wordObstacle {text : List Char} {snag : Snag} (failed : word text = .error snag) :
    Obstacle text snag := by
  have obstacle := closeWordObstacle (Glyph.takeAllProper text) (Glyph.takeOntoHalts [] text) failed
  rwa [← Glyph.takeAll, Glyph.takeAllLexeme] at obstacle

theorem numberObstacle {c : Char} {rest : List Char} {snag : Snag} (digit : c.isDigit = true)
    (failed : number (c :: rest) = .error snag) : Obstacle (c :: rest) snag := by
  have stop := headAfterDrop isNumeral (c :: rest)
  have taken := takenNumerals (c :: rest)
  have whole := List.takeWhile_append_dropWhile (p := isNumeral) (l := c :: rest)
  rw [numeralsSplit, numberExact taken stop] at failed
  split at failed <;> cases failed
  rename_i large
  have first : (c :: rest).takeWhile isNumeral = c :: rest.takeWhile isNumeral := by
    simp [isNumeral, digit]
  rw [first] at taken large whole ⊢
  have obstacle := Obstacle.overflow digit taken stop (numberLarge.mp large)
  rwa [whole] at obstacle

theorem readObstacle {mode : Mode} {text : List Char} {snag : Snag}
    (failed : read mode text = .error snag) : mode = .basic ∧ Obstacle text snag := by
  cases text with
  | nil => simp [read] at failed
  | cons c rest =>
    by_cases noMark : c = switchMark
    · subst c
      rw [readMark] at failed
      contradiction
    cases mode with
    | extended =>
      rw [readRun noMark] at failed
      contradiction
    | basic =>
      by_cases starts : isLetter c = true ∨ c = escapeMark
      · rw [readWord starts] at failed
        exact ⟨rfl, wordObstacle failed⟩
      · by_cases digit : c.isDigit = true
        · rw [readNumber digit] at failed
          exact ⟨rfl, numberObstacle digit failed⟩
        · simp [read, noMark, not_or.mp starts, digit] at failed

theorem obstacleStarts {glyphs : List Glyph} (proper : ∀ g ∈ glyphs, Glyph.Proper g)
    (rest : List Char) :
    ∃ c tail, Glyph.lexeme glyphs ++ escapeMark :: rest = c :: tail ∧
      (isLetter c = true ∨ c = escapeMark) := by
  cases glyphs with
  | nil => exact ⟨escapeMark, rest, rfl, .inr rfl⟩
  | cons g more => exact Glyph.lexemeStarts proper (by simp) _

theorem obstacleRead {text : List Char} {snag : Snag} (obstacle : Obstacle text snag) :
    read .basic text = .error snag := by
  cases obstacle with
  | @dangling glyphs proper =>
    obtain ⟨c, tail, whole, starts⟩ := obstacleStarts proper []
    rw [whole, readWord starts, ← whole, wordTaken proper .slash]
    simp [closeWord]
  | @letter glyphs letter rest proper escaped =>
    obtain ⟨c, tail, whole, starts⟩ := obstacleStarts proper (letter :: rest)
    rw [whole, readWord starts, ← whole, wordTaken proper (.letter escaped)]
    simp [closeWord]
  | overflow start inside stop large =>
    rw [List.cons_append, readNumber start, ← List.cons_append, numberExact inside stop,
      numberLarge.mpr large]

end Piece
end ModalLexer
