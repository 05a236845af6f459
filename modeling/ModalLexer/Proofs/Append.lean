import Mathlib
import ModalLexer.Proofs.Stream

/-! Text added at the end of a source. No rule looks further than one character past a token, so
whatever stops before the old end stays as it was. -/
namespace ModalLexer
open Unicode (isBlank)

theorem ruleAppend {mode kind lexeme rest next} (rule : Rule mode kind lexeme rest.head? next)
    (more : rest ≠ []) (tail : List Char) : Rule mode kind lexeme (rest ++ tail).head? next := by
  rwa [headOfAppend more]

namespace Session

def stop (s : Session) : Nat := s.pos + utf8Size s.rest

def extend (s : Session) (tail : String) : Session :=
  { s with source := s.source ++ tail, rest := s.rest ++ tail.toList }

theorem yieldsStop {s t : Session} {result : Except Fault Token} (asked : s.Yields result t) :
    t.stop = s.stop := by
  obtain ⟨_, taken, front, place⟩ := yieldsTaken asked
  rw [stop, stop, front, place, utf8SizeAppend, Nat.add_assoc]

theorem pastStop {s : Session} {blanks text : List Char} (split : s.rest = blanks ++ text) :
    (s.past blanks text).stop = s.stop := by
  rw [stop, stop, past, split, utf8SizeAppend, Nat.add_assoc]

theorem tokenExtend {s : Session} {blanks lexeme rest kind next} {tail : String}
    (going : s.ended = false) (gap : ∀ c ∈ blanks, isBlank c = true)
    (first : ∀ c ∈ lexeme.head?, isBlank c = false) (split : s.rest = blanks ++ (lexeme ++ rest))
    (rule : Rule s.mode kind lexeme (rest ++ tail.toList).head? next) :
    (s.extend tail).Yields
      (.ok ((s.past blanks (lexeme ++ rest)).accept ⟨kind, lexeme, rest, next⟩).1)
      (((s.past blanks (lexeme ++ rest)).accept ⟨kind, lexeme, rest, next⟩).2.extend tail) := by
  have whole : (s.extend tail).rest = blanks ++ (lexeme ++ (rest ++ tail.toList)) := by
    simp [extend, split]
  exact Yields.token (s := s.extend tail) going gap first whole rule

theorem danglingLate {s : Session} {before : List Char} (small : s.Bounded)
    (whole : s.rest = before ++ [escapeMark]) :
    (s.reject (.danglingEscape before)).1.span.stop = s.stop := by
  simp only [Bounded, whole, utf8SizeAppend, utf8SizeCons, utf8SizeNil] at small
  rw [danglingSpan, betweenExact (Nat.le_add_right _ _) (by omega)]
  simp only [stop, whole, utf8SizeAppend, utf8SizeCons, utf8SizeNil]
  omega

theorem overflowLate {s : Session} {digits : List Char} (small : s.Bounded)
    (whole : s.rest = digits) : (s.reject (.numberOverflow digits [])).1.span.stop = s.stop := by
  simp only [Bounded, whole] at small
  simp only [reject, Fault.numberOverflow, betweenExact (Nat.le_add_right _ _) small, stop, whole]

theorem tokenLate {s : Session} {kind lexeme next} (small : s.Bounded) (whole : s.rest = lexeme) :
    (s.accept ⟨kind, lexeme, [], next⟩).1.span.stop = s.stop := by
  simp only [Bounded, whole] at small
  rw [accept, betweenExact (Nat.le_add_right _ _) small, stop, whole]

theorem faultExtend {s : Session} {blanks text snag} {tail : String} (going : s.ended = false)
    (gap : ∀ c ∈ blanks, isBlank c = true) (first : ∀ c ∈ text.head?, isBlank c = false)
    (split : s.rest = blanks ++ text) (basic : s.mode = .basic) (obstacle : Obstacle text snag)
    (closed : ∀ before, snag ≠ .danglingEscape before)
    (stops : ∀ digits, snag = .numberOverflow digits [] →
      ∀ c ∈ tail.toList.head?, isNumeral c = false) :
    (s.extend tail).Yields (.error ((s.past blanks text).reject snag).1)
      (((s.past blanks text).reject snag).2.extend tail) := by
  have starts : ∀ c ∈ (text ++ tail.toList).head?, isBlank c = false := by
    rwa [headOfAppend (obstacleFilled obstacle)]
  have whole : (s.extend tail).rest = blanks ++ (text ++ tail.toList) := by simp [extend, split]
  cases obstacle with
  | dangling proper => exact absurd rfl (closed _)
  | @letter glyphs letter rest proper escaped =>
    have longer := @Obstacle.letter glyphs letter (rest ++ tail.toList) proper escaped
    rw [List.append_assoc] at starts whole
    exact Yields.fault (s := s.extend tail) going gap starts whole basic longer
  | @overflow digit digits rest start inside stop large =>
    have ends : ∀ c ∈ (rest ++ tail.toList).head?, isNumeral c = false := by
      cases rest with
      | nil => exact stops _ rfl
      | cons => exact stop
    have longer := @Obstacle.overflow digit digits (rest ++ tail.toList) start inside ends large
    rw [List.append_assoc] at starts whole
    exact Yields.fault (s := s.extend tail) going gap starts whole basic longer

theorem faultAppend {s : Session} {blanks text snag} (going : s.ended = false)
    (gap : ∀ c ∈ blanks, isBlank c = true) (first : ∀ c ∈ text.head?, isBlank c = false)
    (split : s.rest = blanks ++ text) (basic : s.mode = .basic) (obstacle : Obstacle text snag)
    (small : (s.past blanks text).Bounded)
    (early : ((s.past blanks text).reject snag).1.span.stop < (s.past blanks text).stop)
    (tail : String) :
    (s.extend tail).Yields (.error ((s.past blanks text).reject snag).1)
      (((s.past blanks text).reject snag).2.extend tail) := by
  refine faultExtend going gap first split basic obstacle ?_ ?_
  · rintro before rfl
    cases obstacle
    exact absurd (danglingLate small rfl) (Nat.ne_of_lt early)
  · rintro digits rfl
    cases obstacle
    rw [List.append_nil] at small early
    exact absurd (overflowLate small rfl) (Nat.ne_of_lt early)

theorem yieldsAppend {s t : Session} {result : Except Fault Token} (asked : s.Yields result t)
    (going : s.ended = false) (bounded : s.Bounded) (early : (spanOf result).stop < s.stop)
    (tail : String) : (s.extend tail).Yields result (t.extend tail) := by
  cases asked with
  | exhausted ended => rw [going] at ended; contradiction
  | eof _ gap =>
    have exact := (yieldsEof (.eof going gap) rfl bounded).2.1
    rw [exact] at early
    exact absurd early (Nat.lt_irrefl _)
  | @token blanks lexeme rest kind next _ gap first split rule =>
    have same := pastStop split
    have more : rest ≠ [] := by
      rintro rfl
      rw [List.append_nil] at same early
      have late := @tokenLate (s.past blanks lexeme) kind lexeme next
        (pastBounded (by simpa using split) bounded) rfl
      exact absurd (late.trans same) (Nat.ne_of_lt early)
    exact tokenExtend going gap first split (ruleAppend rule more tail.toList)
  | fault _ gap first split basic obstacle =>
    exact faultAppend going gap first split basic obstacle (pastBounded split bounded)
      (Nat.lt_of_lt_of_eq early (pastStop split).symm) tail

theorem rejectAbove {s : Session} {text : List Char} {snag : Snag} (obstacle : Obstacle text snag)
    (front : s.rest = text) (small : s.Bounded) : s.pos ≤ (s.reject snag).1.span.stop := by
  cases obstacle with
  | dangling proper =>
    rw [danglingLate small front]
    exact Nat.le_add_right _ _
  | letter proper escaped =>
    simp only [Bounded, front, utf8SizeAppend, utf8SizeCons] at small
    simp only [reject, Fault.escapedLetter]
    rw [betweenExact (by omega) (by omega)]
    dsimp only
    omega
  | overflow start inside stop large =>
    simp only [Bounded, front, utf8SizeAppend] at small
    simp only [reject, Fault.numberOverflow]
    rw [betweenExact (Nat.le_add_right _ _) (by omega)]
    exact Nat.le_add_right _ _

theorem yieldsAbove {s t : Session} {result : Except Fault Token} (asked : s.Yields result t)
    (bounded : s.Bounded) : s.pos ≤ (spanOf result).stop := by
  cases result with
  | ok token =>
    cases more : token.isEof with
    | true =>
      obtain ⟨_, rfl, _⟩ := yieldsEof asked more bounded
      exact Nat.le_add_right _ _
    | false =>
      obtain ⟨_, _, _, _, _, _, _, span, _⟩ := yieldsToken asked more bounded
      rw [spanOf, span]
      dsimp only
      omega
  | error fault =>
    cases asked with
    | exhausted =>
      have here := Nat.le_trans (Nat.le_add_right _ _) bounded
      exact Nat.le_of_eq (clampOffsetExact here).symm
    | fault _ gap first split basic obstacle =>
      exact Nat.le_trans (Nat.le_add_right _ _)
        (rejectAbove obstacle rfl (pastBounded split bounded))

theorem streamAbove {s : Session} {steps : List Step} (stream : Stream s steps)
    (bounded : s.Bounded) : ∀ step ∈ steps, s.pos ≤ (spanOf step.result).stop := by
  induction stream with
  | @token s t after steps asked more later ih =>
    intro step member
    rcases List.mem_cons.mp member with rfl | member
    · exact yieldsAbove asked bounded
    · obtain ⟨_, taken, _, place⟩ := yieldsTaken asked
      have above := ih (yieldsBounded asked bounded) step member
      omega
  | last asked _ =>
    intro step member
    obtain rfl := List.mem_singleton.mp member
    exact yieldsAbove asked bounded

/- By induction on the stream: up to the old end both sessions stay in step, with `tail` behind. -/
theorem streamAppend {s : Session} {steps longer : List Step} {tail : String}
    (stream : Stream s steps) (extended : Stream (s.extend tail) longer) (going : s.ended = false)
    (bounded : s.Bounded) {i : Nat} {step : Step} (item : steps[i]? = some step)
    (early : (spanOf step.result).stop < s.stop) :
    ∃ later, longer[i]? = some later ∧ later.result = step.result ∧
      later.after.mode = step.after.mode := by
  induction stream generalizing longer i with
  | @token s t after steps asked more others ih =>
    have small := yieldsBounded asked bounded
    obtain ⟨_, _, _, _, _, _, _, span, place⟩ := yieldsToken asked more bounded
    have stops : t.span.stop = after.pos := by rw [span, place]
    have before : t.span.stop < s.stop := by
      cases i with
      | zero =>
        cases item
        exact early
      | succ i =>
        have above := streamAbove others small step (List.mem_of_getElem? item)
        omega
    have same := yieldsAppend asked going bounded before tail
    obtain ⟨rest, rfl, follows⟩ := streamToken extended same more
    cases i with
    | zero =>
      cases item
      exact ⟨_, rfl, rfl, rfl⟩
    | succ i =>
      exact ih follows (yieldsGoing asked more) small item (yieldsStop asked ▸ early)
  | @last s result after asked final =>
    obtain rfl : i = 0 := by
      have inside := (List.getElem?_eq_some_iff.mp item).1
      exact Nat.lt_one_iff.mp inside
    cases item
    have same := yieldsAppend asked going bounded early tail
    rw [streamLast extended same final]
    exact ⟨_, rfl, rfl, rfl⟩

theorem startExtend (source tail : String) (mode : Mode) :
    start (source ++ tail) mode = (start source mode).extend tail := by
  simp [start, extend]

theorem startStop (source : String) (mode : Mode) :
    (start source mode).stop = source.utf8ByteSize := by
  simp [start, stop, utf8SizeToList]

/-- Text added at the end of a source changes nothing that stops before the old end: neither the
token or fault, nor how many came before it, nor the mode after it. -/
theorem earlyStepsStay (source tail : String) (mode : Mode)
    (small : (source ++ tail).utf8ByteSize ≤ largestOffset) {i : Nat} {step : Step}
    (item : (start source mode).steps[i]? = some step)
    (early : (spanOf step.result).stop < source.utf8ByteSize) :
    ∃ later, (start (source ++ tail) mode).steps[i]? = some later ∧
      later.result = step.result ∧ later.after.mode = step.after.mode := by
  have bounded : (start source mode).Bounded := by
    apply startBounded
    rw [String.utf8ByteSize_append] at small
    omega
  rw [startExtend]
  rw [← startStop source mode] at early
  exact streamAppend (stepsStream rfl) (stepsStream rfl) rfl bounded item early

theorem faultStaysBeforeText :
    ("é \\a b" ++ "c#").utf8ByteSize ≤ largestOffset ∧
      (start "é \\a b" .basic).steps[1]? =
        some ⟨.error ⟨⟨3, 5⟩, .escapedLetter 'a', .word 3⟩,
          ⟨"é \\a b", 5, [' ', 'b'], .basic, some ⟨.word "é", ⟨0, 2⟩⟩, true⟩⟩ ∧
      5 < "é \\a b".utf8ByteSize ∧
      ∃ later, (start ("é \\a b" ++ "c#") .basic).steps[1]? = some later ∧
        later.result = .error ⟨⟨3, 5⟩, .escapedLetter 'a', .word 3⟩ ∧ later.after.mode = .basic := by
  have small : ("é \\a b" ++ "c#").utf8ByteSize ≤ largestOffset := by decide
  have item : (start "é \\a b" .basic).steps[1]? =
      some ⟨.error ⟨⟨3, 5⟩, .escapedLetter 'a', .word 3⟩,
        ⟨"é \\a b", 5, [' ', 'b'], .basic, some ⟨.word "é", ⟨0, 2⟩⟩, true⟩⟩ := by cbv
  have early : 5 < "é \\a b".utf8ByteSize := by decide
  exact ⟨small, item, early, earlyStepsStay _ _ _ small item early⟩

end Session
end ModalLexer
