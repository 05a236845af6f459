import Mathlib.Control.Monad.Basic
import ModalLexer.Proofs.Call

/-! What a call that fails leaves as it was, and the place it leaves the session at. -/
namespace ModalLexer

/-- A session goes on past the text of a fault, but before a backslash that stands alone. -/
def Fault.place (fault : Fault) : Nat :=
  if fault.cause = .danglingEscape ∧ fault.context = .topLevel then fault.span.start
  else fault.span.stop

theorem placeStop {fault : Fault} (inside : fault.context ≠ .topLevel) :
    fault.place = fault.span.stop :=
  if_neg fun alone => inside alone.2

namespace Session

theorem rejectCause (s : Session) (snag : Snag) :
    (s.reject snag).1.cause ≠ .exhausted ∧ (s.reject snag).1.cause ≠ .missingMode := by
  cases snag with
  | danglingEscape before =>
    simp only [reject]
    split <;> simp [Fault.danglingEscape]
  | escapedLetter | numberOverflow =>
    simp [reject, Fault.escapedLetter, Fault.numberOverflow]

theorem rejectPlace {s : Session} {text : List Char} {snag : Snag} (obstacle : Obstacle text snag)
    (front : s.rest = text) (bounded : s.Bounded) :
    (s.reject snag).2.pos = (s.reject snag).1.place := by
  have size := congrArg utf8Size front
  simp only [Bounded] at bounded
  cases obstacle with
  | @dangling glyphs proper =>
    by_cases bare : Glyph.lexeme glyphs = []
    · simp only [reject, bare, if_true, utf8SizeNil, Nat.add_zero]
      exact (clampOffsetExact (Nat.le_trans (Nat.le_add_right _ _) bounded)).symm
    · simp only [utf8SizeAppend, utf8SizeCons, utf8SizeNil] at size
      simp only [reject, bare, if_false]
      rw [placeStop (by simp [Fault.danglingEscape])]
      exact (clampOffsetExact (by omega)).symm
  | @letter glyphs letter rest proper escaped =>
    simp only [utf8SizeAppend, utf8SizeCons] at size
    simp only [reject]
    rw [placeStop (by simp [Fault.escapedLetter])]
    exact (clampOffsetExact (by omega)).symm
  | @overflow first digits rest start inside stop large =>
    rw [utf8SizeAppend] at size
    simp only [reject]
    rw [placeStop (by simp [Fault.numberOverflow])]
    exact (clampOffsetExact (by omega)).symm

theorem rejectAlone {s : Session} {text : List Char} {snag : Snag} (obstacle : Obstacle text snag)
    (front : s.rest = text) (alone : (s.reject snag).1.context = .topLevel) :
    (s.reject snag).2.rest = [escapeMark] := by
  cases obstacle with
  | @dangling glyphs proper =>
    by_cases bare : Glyph.lexeme glyphs = []
    · simp [reject, bare, front]
    · simp [reject, bare, Fault.danglingEscape] at alone
  | letter | overflow => contradiction

theorem faultFrame {s after : Session} {fault : Fault} (asked : s.Yields (.error fault) after)
    (bounded : s.Bounded) :
    after.pos = fault.place ∧ fault.cause ≠ .missingMode ∧
      (fault.cause = .exhausted → after = s) ∧
      (fault.cause = .danglingEscape → fault.context = .topLevel → after.rest = [escapeMark]) := by
  cases asked with
  | exhausted =>
    have here := clampOffsetExact (Nat.le_trans (Nat.le_add_right _ _) bounded)
    exact ⟨here.symm, nofun, fun _ => rfl, nofun⟩
  | @fault blanks text snag going gap first split basic obstacle =>
    obtain ⟨noExhausted, noMissing⟩ := (s.past blanks text).rejectCause snag
    exact ⟨rejectPlace obstacle rfl (pastBounded split bounded), noMissing,
      fun same => absurd same noExhausted, fun _ alone => rejectAlone obstacle rfl alone⟩

/-- A call that fails keeps the source, the mode and the last token, and leaves the session at the
place of its fault. A request that gives a token leaves the session at the end of it. -/
theorem faultsKeep {source : String} (small : source.utf8ByteSize ≤ largestOffset) {s : Session}
    (reached : Reached source s) :
    (∀ fault after,
      s.next = (.error fault, after) ∨ (∃ mode, s.setMode mode = (.error fault, after)) →
        after.source = s.source ∧ after.mode = s.mode ∧ after.current = s.current ∧
          after.pos = fault.place ∧
          (fault.cause = .danglingEscape → fault.context = .topLevel →
            after.rest = [escapeMark]) ∧
          (fault.cause = .exhausted ∨ fault.cause = .missingMode → after = s)) ∧
      ∀ t after, s.next = (.ok t, after) → after.current = some t ∧ after.pos = t.span.stop := by
  have bounded := reachedBounded small reached
  constructor
  · rintro fault after (asked | ⟨mode, refused⟩)
    · have yields := nextExact.mp asked
      obtain ⟨place, noMissing, same, slash⟩ := faultFrame yields bounded
      have kept := faultKeeps yields
      refine ⟨by rw [kept], by rw [kept], by rw [kept], place, slash, ?_⟩
      rintro (exhausted | missing)
      · exact same exhausted
      · contradiction
    · cases mode with
      | some mode => simp [setMode] at refused
      | none =>
        cases refused
        have here := clampOffsetExact (Nat.le_trans (Nat.le_add_right _ _) bounded)
        exact ⟨rfl, rfl, rfl, here.symm, nofun, fun _ => rfl⟩
  · intro t after asked
    have yields := nextExact.mp asked
    exact ⟨tokenCurrent yields, by rw [tokenSpan yields bounded]⟩

theorem loneEscapeFrame :
    let s := (((start "é \\a \\" .basic).answer .pull).2.answer .next).2
    "é \\a \\".utf8ByteSize ≤ largestOffset ∧ Reached "é \\a \\" s ∧
      s.next.1 = .error ⟨⟨6, 7⟩, .danglingEscape, .topLevel⟩ ∧
      s.next.2.mode = s.mode ∧ s.next.2.current = s.current ∧ s.next.2.pos = 6 ∧
      s.next.2.rest = [escapeMark] ∧ (s.setMode none).2 = s := by
  intro s
  have reached : Reached "é \\a \\" s := .call (.call (.start .basic) .pull) .next
  have small : "é \\a \\".utf8ByteSize ≤ largestOffset := by decide
  have failed : s.next.1 = .error ⟨⟨6, 7⟩, .danglingEscape, .topLevel⟩ := by decide +kernel
  clear_value s
  obtain ⟨faults, _⟩ := faultsKeep small reached
  obtain ⟨_, mode, current, place, slash, _⟩ :=
    faults _ s.next.2 (.inl (Prod.ext failed rfl))
  obtain ⟨_, _, _, _, _, same⟩ := faults _ _ (.inr ⟨none, rfl⟩)
  exact ⟨small, reached, failed, mode, current, place, slash rfl rfl, same (.inr rfl)⟩

end Session
end ModalLexer
