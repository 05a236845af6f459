import ModalLexer.Proofs.Offset
import ModalLexer.Proofs.Rule
import ModalLexer.Session

/-! Requests for a token. A request gives back the end of input, a token that a rule allows, a fault
that an obstacle causes, or nothing more; which one, and the session after it, hang on the place,
the mode and the text from there on. -/
namespace ModalLexer
open Unicode (isBlank)

def spanOf : Except Fault Token → Span
  | .ok t => t.span
  | .error fault => fault.span

theorem ruleFilled {mode kind lexeme follow next} (rule : Rule mode kind lexeme follow next) :
    lexeme ≠ [] := by
  cases rule with
  | mark | symbol => simp
  | run filled | number filled => exact filled
  | word filled => exact fun bare => filled (Glyph.lexemeEmpty bare)

theorem ruleNoEof {mode kind lexeme follow next} (rule : Rule mode kind lexeme follow next) :
    kind ≠ .eof := by
  cases rule <;> simp

theorem obstacleFilled {text snag} (obstacle : Obstacle text snag) : text ≠ [] := by
  cases obstacle <;> simp

theorem headOfAppend {left : List Char} (filled : left ≠ []) (right : List Char) :
    (left ++ right).head? = left.head? := by
  cases left with
  | nil => contradiction
  | cons c more => rfl

theorem isEofExact {t : Token} : t.isEof = true ↔ t.kind = .eof := by
  cases t with
  | mk kind span => cases kind <;> simp [Token.isEof]

theorem blankSpace : isBlank ' ' = true := by decide

theorem ruleSpaced {mode kind lexeme follow next} (calm : ∀ c ∈ follow, isBlank c = true)
    (rule : Rule mode kind lexeme follow next) : Rule mode kind lexeme (some ' ') next := by
  cases rule with
  | mark => exact .mark mode _
  | run filled inside stop =>
    have noMark : follow ≠ some switchMark := by
      rintro rfl
      exact absurd (calm switchMark rfl) (by decide)
    rw [if_neg noMark]
    exact Rule.run filled inside (by simp)
  | word filled proper stop =>
    refine Rule.word filled proper ?_
    rintro c ⟨⟩
    exact ⟨by decide +kernel, by decide⟩
  | number filled inside stop fits =>
    refine Rule.number filled inside ?_ fits
    rintro c ⟨⟩
    exact ⟨by decide, by decide⟩
  | symbol noLetter noDigit noEscape noMark => exact .symbol noLetter noDigit noEscape noMark

namespace Session

def past (s : Session) (blanks text : List Char) : Session :=
  { s with pos := s.pos + utf8Size blanks, rest := text }

inductive Yields (s : Session) : Except Fault Token → Session → Prop where
  | exhausted (ended : s.ended = true) :
      Yields s (.error (.exhausted (.point (clampOffset s.pos)))) s
  | eof (going : s.ended = false) (gap : ∀ c ∈ s.rest, isBlank c = true) :
      Yields s (.ok ((s.past s.rest []).accept ⟨.eof, [], [], s.mode⟩).1)
        ((s.past s.rest []).accept ⟨.eof, [], [], s.mode⟩).2
  | token {blanks lexeme rest kind next} (going : s.ended = false)
      (gap : ∀ c ∈ blanks, isBlank c = true) (first : ∀ c ∈ lexeme.head?, isBlank c = false)
      (split : s.rest = blanks ++ (lexeme ++ rest)) (rule : Rule s.mode kind lexeme rest.head? next) :
      Yields s (.ok ((s.past blanks (lexeme ++ rest)).accept ⟨kind, lexeme, rest, next⟩).1)
        ((s.past blanks (lexeme ++ rest)).accept ⟨kind, lexeme, rest, next⟩).2
  | fault {blanks text snag} (going : s.ended = false) (gap : ∀ c ∈ blanks, isBlank c = true)
      (first : ∀ c ∈ text.head?, isBlank c = false) (split : s.rest = blanks ++ text)
      (basic : s.mode = .basic) (obstacle : Obstacle text snag) :
      Yields s (.error ((s.past blanks text).reject snag).1) ((s.past blanks text).reject snag).2

theorem skipBlanksPast {s : Session} {blanks text : List Char} (split : s.rest = blanks ++ text)
    (gap : ∀ c ∈ blanks, isBlank c = true) (first : ∀ c ∈ text.head?, isBlank c = false) :
    s.skipBlanks = s.past blanks text := by
  rw [skipBlanks, split, takeWhileExact gap first, dropWhileExact gap first]
  rfl

theorem nextPast {s : Session} {blanks text : List Char} (going : s.ended = false)
    (split : s.rest = blanks ++ text) (gap : ∀ c ∈ blanks, isBlank c = true)
    (first : ∀ c ∈ text.head?, isBlank c = false) : s.next = (s.past blanks text).read := by
  simp only [next, going, Bool.false_eq_true, if_false, skipBlanksPast split gap first]

theorem yieldsNext {s t : Session} {result : Except Fault Token} (yields : s.Yields result t) :
    s.next = (result, t) := by
  cases yields with
  | exhausted ended => simp [next, ended]
  | eof going gap =>
    rw [nextPast going (List.append_nil _).symm gap (by simp)]
    rfl
  | token going gap first split rule =>
    rw [nextPast going split gap (by rwa [headOfAppend (ruleFilled rule)]), read,
      show (s.past _ _).mode = s.mode from rfl, past, Piece.ruleRead rule]
  | fault going gap first split basic obstacle =>
    rw [nextPast going split gap first, read, show (s.past _ _).mode = s.mode from rfl, basic, past,
      Piece.obstacleRead obstacle]

theorem nextYields (s : Session) : s.Yields s.next.1 s.next.2 := by
  cases going : s.ended with
  | true =>
    rw [next, if_pos going]
    exact .exhausted going
  | false =>
    have split := (List.takeWhile_append_dropWhile (p := isBlank) (l := s.rest)).symm
    have gap : ∀ c ∈ s.rest.takeWhile isBlank, isBlank c = true :=
      List.all_eq_true.mp List.all_takeWhile
    have first := headAfterDrop isBlank s.rest
    generalize s.rest.takeWhile isBlank = blanks at split gap
    generalize s.rest.dropWhile isBlank = text at split first
    cases text with
    | nil =>
      rw [List.append_nil] at split
      rw [yieldsNext (.eof going (split ▸ gap))]
      exact .eof going (split ▸ gap)
    | cons c after =>
      cases found : Piece.read s.mode (c :: after) with
      | ok p =>
        have noSpace : c ≠ ' ' := by
          rintro rfl
          exact absurd (first ' ' rfl) (by simp [blankSpace])
        have rule := Piece.readRule noSpace found
        have whole := Piece.readSplits found
        rw [← whole] at split first
        have yields := Yields.token going gap (by rwa [headOfAppend (ruleFilled rule)] at first)
          split rule
        rw [yieldsNext yields]
        exact yields
      | error snag =>
        obtain ⟨basic, obstacle⟩ := Piece.readObstacle found
        have yields := Yields.fault going gap first split basic obstacle
        rw [yieldsNext yields]
        exact yields

theorem nextExact {s t : Session} {result : Except Fault Token} :
    s.next = (result, t) ↔ s.Yields result t := by
  constructor
  · intro asked
    have yields := s.nextYields
    rwa [asked] at yields
  · exact yieldsNext

def Placed (s : Session) : Prop :=
  ∃ passed, s.source.toList = passed ++ s.rest ∧ utf8Size passed = s.pos

def Bounded (s : Session) : Prop := s.pos + utf8Size s.rest ≤ largestOffset

theorem pastBounded {s : Session} {blanks text : List Char} (split : s.rest = blanks ++ text)
    (bounded : s.Bounded) : (s.past blanks text).Bounded := by
  simp only [Bounded, split, utf8SizeAppend, past] at bounded ⊢
  omega

theorem rejectKeeps (s : Session) (snag : Snag) :
    (s.reject snag).2 = { s with pos := (s.reject snag).2.pos, rest := (s.reject snag).2.rest } := by
  cases snag with
  | danglingEscape before => simp only [reject]; split <;> rfl
  | escapedLetter | numberOverflow => rfl

theorem rejectTaken {s : Session} {text : List Char} {snag : Snag} (obstacle : Obstacle text snag)
    (front : s.rest = text) :
    ∃ taken, text = taken ++ (s.reject snag).2.rest ∧
      (s.reject snag).2.pos = s.pos + utf8Size taken := by
  cases obstacle with
  | @dangling glyphs proper =>
    by_cases bare : Glyph.lexeme glyphs = []
    · exact ⟨[], by simp [reject, bare, front], by simp [reject, bare]⟩
    · exact ⟨Glyph.lexeme glyphs ++ [escapeMark], by simp [reject, bare],
        by simp [reject, bare, Nat.add_assoc]⟩
  | @letter glyphs letter rest proper escaped =>
    exact ⟨Glyph.lexeme glyphs ++ [escapeMark, letter], by simp [reject],
      by simp [reject, Nat.add_assoc]⟩
  | @overflow first digits rest start inside stop large => exact ⟨first :: digits, rfl, rfl⟩

theorem danglingSpan (s : Session) (before : List Char) :
    (s.reject (.danglingEscape before)).1.span =
      .between (s.pos + utf8Size before) (s.pos + utf8Size before + escapeMark.utf8Size) := by
  simp only [reject]
  split <;> rfl

theorem rejectSlice (s : Session) {text : List Char} {snag : Snag} (obstacle : Obstacle text snag) :
    ∃ before slice after, text = before ++ (slice ++ after) ∧
      (slice ≠ [] ∧ ∀ c ∈ slice, isBlank c = false) ∧
      (s.reject snag).1.span = .between (s.pos + utf8Size before)
        (s.pos + utf8Size before + utf8Size slice) := by
  have mark : isBlank escapeMark = false := by decide
  cases obstacle with
  | @dangling glyphs proper =>
    refine ⟨Glyph.lexeme glyphs, [escapeMark], [], rfl, ⟨List.cons_ne_nil _ _, ?_⟩, ?_⟩
    · exact List.forall_mem_singleton.mpr mark
    · rw [danglingSpan, utf8SizeCons, utf8SizeNil, Nat.add_zero]
  | @letter glyphs letter rest proper escaped =>
    refine ⟨Glyph.lexeme glyphs, [escapeMark, letter], rest, rfl, ⟨List.cons_ne_nil _ _, ?_⟩, ?_⟩
    · exact List.forall_mem_cons.mpr ⟨mark, List.forall_mem_singleton.mpr (letterNoBlank escaped)⟩
    · simp [reject, Fault.escapedLetter, Nat.add_assoc]
  | @overflow first digits rest start inside =>
    refine ⟨[], first :: digits, rest, rfl, ⟨List.cons_ne_nil _ _, ?_⟩, rfl⟩
    exact fun c member => numeralNoBlank (inside c member)

theorem yieldsTaken {s t : Session} {result : Except Fault Token} (asked : s.Yields result t) :
    t.source = s.source ∧ ∃ taken, s.rest = taken ++ t.rest ∧ t.pos = s.pos + utf8Size taken := by
  cases asked with
  | exhausted => exact ⟨rfl, [], rfl, rfl⟩
  | eof => exact ⟨rfl, s.rest, (List.append_nil _).symm, by simp [accept, past]⟩
  | @token blanks lexeme rest kind next going gap first split rule =>
    exact ⟨rfl, blanks ++ lexeme, by rw [split, List.append_assoc]; rfl,
      by simp [accept, past, Nat.add_assoc]⟩
  | @fault blanks text snag going gap first split basic obstacle =>
    obtain ⟨taken, front, place⟩ := rejectTaken (s := s.past blanks text) obstacle rfl
    refine ⟨by rw [rejectKeeps]; rfl, blanks ++ taken, ?_, ?_⟩
    · rw [split, List.append_assoc, ← front]
    · rw [place]
      simp [past, Nat.add_assoc]

theorem yieldsPlaced {s t : Session} {result : Except Fault Token} (asked : s.Yields result t)
    (placed : s.Placed) : t.Placed := by
  obtain ⟨source, taken, front, place⟩ := yieldsTaken asked
  obtain ⟨passed, whole, bytes⟩ := placed
  refine ⟨passed ++ taken, ?_, ?_⟩
  · rw [source, whole, front, List.append_assoc]
  · rw [utf8SizeAppend, bytes, place]

theorem yieldsBounded {s t : Session} {result : Except Fault Token} (asked : s.Yields result t)
    (bounded : s.Bounded) : t.Bounded := by
  obtain ⟨_, taken, front, place⟩ := yieldsTaken asked
  simp only [Bounded, front, place, utf8SizeAppend] at bounded ⊢
  omega

theorem startPlaced (source : String) (mode : Mode) : (start source mode).Placed :=
  ⟨[], rfl, rfl⟩

theorem startBounded {source : String} (small : source.utf8ByteSize ≤ largestOffset) (mode : Mode) :
    (start source mode).Bounded := by
  simpa [Bounded, start, utf8SizeToList] using small

theorem yieldsRule {s after : Session} {t : Token} (asked : s.Yields (.ok t) after)
    (more : t.isEof = false) :
    ∃ blanks lexeme, s.rest = blanks ++ (lexeme ++ after.rest) ∧ (∀ c ∈ blanks, isBlank c = true) ∧
      (∀ c ∈ lexeme.head?, isBlank c = false) ∧
      Rule s.mode t.kind lexeme after.rest.head? after.mode ∧
      t.span = .between (s.pos + utf8Size blanks) (s.pos + utf8Size blanks + utf8Size lexeme) ∧
      after = { s with
        pos := s.pos + utf8Size blanks + utf8Size lexeme, rest := after.rest, mode := after.mode
        current := some t } := by
  cases asked with
  | eof => contradiction
  | token going gap first split rule => exact ⟨_, _, split, gap, first, rule, rfl, rfl⟩

theorem yieldsToken {s after : Session} {t : Token} (asked : s.Yields (.ok t) after)
    (more : t.isEof = false) (bounded : s.Bounded) :
    ∃ blanks lexeme rest, s.rest = blanks ++ (lexeme ++ rest) ∧
      (∀ c ∈ blanks, isBlank c = true) ∧ (∀ c ∈ lexeme.head?, isBlank c = false) ∧
      Rule s.mode t.kind lexeme rest.head? after.mode ∧
      t.span = ⟨s.pos + utf8Size blanks, s.pos + utf8Size blanks + utf8Size lexeme⟩ ∧
      after = { s with
        pos := s.pos + utf8Size blanks + utf8Size lexeme, rest := rest, mode := after.mode
        current := some t } := by
  obtain ⟨blanks, lexeme, split, gap, first, rule, span, same⟩ := yieldsRule asked more
  refine ⟨blanks, lexeme, after.rest, split, gap, first, rule, ?_, same⟩
  rw [span]
  apply betweenExact (Nat.le_add_right _ _)
  simp only [Bounded, split, utf8SizeAppend] at bounded
  omega

theorem yieldsEnd {s after : Session} {t : Token} (asked : s.Yields (.ok t) after)
    (final : t.isEof = true) :
    let stop := s.pos + utf8Size s.rest
    (∀ c ∈ s.rest, isBlank c = true) ∧ t = ⟨.eof, .between stop stop⟩ ∧
      after = { s with pos := stop, rest := [], current := some t } := by
  cases asked with
  | eof going gap => exact ⟨gap, rfl, rfl⟩
  | token going gap first split rule =>
    exact absurd (isEofExact.mp final) (ruleNoEof rule)

theorem yieldsEof {s after : Session} {t : Token} (asked : s.Yields (.ok t) after)
    (final : t.isEof = true) (bounded : s.Bounded) :
    (∀ c ∈ s.rest, isBlank c = true) ∧ t = ⟨.eof, .point (s.pos + utf8Size s.rest)⟩ ∧
      after = { s with pos := s.pos + utf8Size s.rest, rest := [], current := some t } := by
  obtain ⟨gap, token, same⟩ := yieldsEnd asked final
  refine ⟨gap, ?_, same⟩
  rw [token, betweenExact (Nat.le_refl _) bounded, Span.point]

theorem ruleYields {s : Session} {blanks lexeme rest kind next} (going : s.ended = false)
    (gap : ∀ c ∈ blanks, isBlank c = true) (first : ∀ c ∈ lexeme.head?, isBlank c = false)
    (split : s.rest = blanks ++ (lexeme ++ rest)) (rule : Rule s.mode kind lexeme rest.head? next) :
    let start := s.pos + utf8Size blanks
    let stop := start + utf8Size lexeme
    let t : Token := ⟨kind, .between start stop⟩
    s.Yields (.ok t) { s with pos := stop, rest := rest, mode := next, current := some t } ∧
      t.isEof = false := by
  refine ⟨Yields.token going gap first split rule, ?_⟩
  rw [← Bool.not_eq_true, isEofExact]
  exact ruleNoEof rule

theorem yieldsOpen {s after : Session} {t : Token} (asked : s.Yields (.ok t) after) :
    s.ended = false := by
  cases asked with
  | eof going | token going => exact going

theorem tokenCurrent {s after : Session} {t : Token} (asked : s.Yields (.ok t) after) :
    after.current = some t := by
  cases asked with
  | eof | token => rfl

theorem faultKeeps {s after : Session} {fault : Fault} (asked : s.Yields (.error fault) after) :
    after = { s with pos := after.pos, rest := after.rest } := by
  cases asked with
  | exhausted => rfl
  | fault => rw [rejectKeeps]; rfl

theorem tokenSpan {s after : Session} {t : Token} (asked : s.Yields (.ok t) after)
    (bounded : s.Bounded) : t.span = ⟨s.skipBlanks.pos, after.pos⟩ := by
  cases more : t.isEof with
  | true =>
    obtain ⟨gap, rfl, same⟩ := yieldsEof asked more bounded
    rw [same, skipBlanksPast (List.append_nil _).symm gap (by simp)]
    rfl
  | false =>
    obtain ⟨blanks, lexeme, rest, split, gap, first, rule, span, same⟩ :=
      yieldsToken asked more bounded
    rw [same, span, skipBlanksPast split gap (by rwa [headOfAppend (ruleFilled rule)])]
    rfl

end Session
end ModalLexer
