import Mathlib
import ModalLexer.Proofs.Stream

/-! Failures: where in a source a fault may come up, and what the source looks like there. -/
namespace ModalLexer
open Unicode (isLetter isBlank)

def FirstUnblank (source : String) (floor offset : Nat) : Prop :=
  ∃ passed blanks c rest, source.toList = passed ++ (blanks ++ c :: rest) ∧
    utf8Size passed = floor ∧ utf8Size (passed ++ blanks) = offset ∧
    (∀ b ∈ blanks, isBlank b = true) ∧ isBlank c = false

inductive FaultForm where
  | loneEscape
  | openEscape
  | escapedLetter
  | overflow
  deriving DecidableEq, Repr

namespace FaultForm

def Holds (source : String) (offset : Nat) (fault : Fault) : FaultForm → Prop
  | loneEscape =>
    fault.cause = .danglingEscape ∧ fault.context = .topLevel ∧
      fault.span = ⟨offset, source.utf8ByteSize⟩ ∧ source.utf8ByteSize = offset + 1 ∧
      ∃ before, Cut source fault.span before [escapeMark] []
  | openEscape =>
    fault.cause = .danglingEscape ∧ fault.context = .word offset ∧
      fault.span = ⟨source.utf8ByteSize - 1, source.utf8ByteSize⟩ ∧
      offset < source.utf8ByteSize - 1 ∧
      ∃ before glyphs, utf8Size before = offset ∧ glyphs ≠ [] ∧ (∀ g ∈ glyphs, Glyph.Proper g) ∧
        Cut source fault.span (before ++ Glyph.lexeme glyphs) [escapeMark] []
  | escapedLetter =>
    ∃ letter, fault.cause = .escapedLetter letter ∧ fault.context = .word offset ∧
      isLetter letter = true ∧
      ∃ before glyphs after, utf8Size before = offset ∧ (∀ g ∈ glyphs, Glyph.Proper g) ∧
        Cut source fault.span (before ++ Glyph.lexeme glyphs) [escapeMark, letter] after
  | overflow =>
    ∃ first digits, fault.cause = .numberOverflow (String.ofList (first :: digits)) ∧
      fault.context = .number offset ∧ fault.span.start = offset ∧
      (∃ before after, Cut source fault.span before (first :: digits) after ∧
        ∀ c ∈ after.head?, c.isDigit = false ∧ c ≠ '.') ∧
      first.isDigit = true ∧ (∀ c ∈ first :: digits, c.isDigit = true ∨ c = '.') ∧
      ('.' ∈ first :: digits ∨ largestNumber < Nat.ofDigitChars 10 (first :: digits) 0)

def ofFault (fault : Fault) : FaultForm :=
  match fault.cause, fault.context with
  | .danglingEscape, .topLevel => loneEscape
  | .danglingEscape, _ => openEscape
  | .escapedLetter _, _ => escapedLetter
  | _, _ => overflow

theorem holdsForm {source : String} {offset : Nat} {fault : Fault} {form : FaultForm}
    (holds : form.Holds source offset fault) : form = ofFault fault := by
  cases form with
  | loneEscape =>
    obtain ⟨cause, context, _⟩ := holds
    simp only [ofFault, cause, context]
  | openEscape =>
    obtain ⟨cause, context, _⟩ := holds
    simp only [ofFault, cause, context]
  | escapedLetter =>
    obtain ⟨letter, cause, _⟩ := holds
    simp only [ofFault, cause]
  | overflow =>
    obtain ⟨first, digits, cause, _⟩ := holds
    simp only [ofFault, cause]

theorem holdsCause {source : String} {offset : Nat} {fault : Fault} {form : FaultForm}
    (holds : form.Holds source offset fault) :
    fault.cause ≠ .exhausted ∧ fault.cause ≠ .missingMode := by
  cases form with
  | loneEscape | openEscape => simp [holds.1]
  | escapedLetter => obtain ⟨letter, cause, _⟩ := holds; simp [cause]
  | overflow => obtain ⟨first, digits, cause, _⟩ := holds; simp [cause]

end FaultForm

namespace Session

theorem escapeSize : escapeMark.utf8Size = 1 := by decide

theorem faultCut {source : String} (small : source.utf8ByteSize ≤ largestOffset)
    {before slice after : List Char} (whole : source.toList = before ++ (slice ++ after)) :
    Span.between (utf8Size before) (utf8Size before + utf8Size slice) =
        ⟨utf8Size before, utf8Size before + utf8Size slice⟩ ∧
      Cut source (.between (utf8Size before) (utf8Size before + utf8Size slice)) before slice after ∧
      clampOffset (utf8Size before) = utf8Size before := by
  have total := congrArg utf8Size whole
  simp only [utf8SizeAppend, utf8SizeToList] at total
  have exact := betweenExact (Nat.le_add_right (utf8Size before) (utf8Size slice)) (by omega)
  refine ⟨exact, ?_, clampOffsetExact (by omega)⟩
  rw [exact]
  exact ⟨whole, rfl, rfl⟩

theorem danglingForm {source : String} {passed : List Char} {glyphs : List Glyph} {s : Session}
    (proper : ∀ g ∈ glyphs, Glyph.Proper g)
    (whole : source.toList = passed ++ (Glyph.lexeme glyphs ++ [escapeMark]))
    (place : utf8Size passed = s.pos) (small : source.utf8ByteSize ≤ largestOffset) :
    ∃ form : FaultForm,
      form.Holds source s.pos (s.reject (.danglingEscape (Glyph.lexeme glyphs))).1 := by
  have total := congrArg utf8Size whole
  simp only [utf8SizeAppend, utf8SizeToList, utf8SizeCons, utf8SizeNil, escapeSize, place] at total
  have last : source.toList = (passed ++ Glyph.lexeme glyphs) ++ ([escapeMark] ++ []) := by
    rw [whole, List.append_assoc]
    rfl
  obtain ⟨exact, cut, _⟩ := faultCut small last
  simp only [utf8SizeAppend, utf8SizeCons, utf8SizeNil, escapeSize, Nat.add_zero, place] at exact cut
  by_cases bare : Glyph.lexeme glyphs = []
  · simp only [bare, utf8SizeNil, Nat.add_zero, List.append_nil] at exact cut total
    refine ⟨.loneEscape, ?_⟩
    simp only [reject, bare, if_true, utf8SizeNil, Nat.add_zero, escapeSize]
    exact ⟨rfl, rfl, by rw [Fault.danglingEscape, exact, total], total, passed, cut⟩
  · have long := utf8SizePositive bare
    have filled : glyphs ≠ [] := by
      rintro rfl
      exact bare rfl
    refine ⟨.openEscape, ?_⟩
    simp only [reject, bare, if_false, escapeSize]
    refine ⟨rfl, ?_, ?_, by omega, passed, glyphs, place, filled, proper, cut⟩
    · rw [Fault.danglingEscape, clampOffsetExact (by omega)]
    · rw [Fault.danglingEscape, exact, total]
      rfl

theorem obstacleForm {source : String} {passed text : List Char} {snag : Snag} {s : Session}
    (obstacle : Obstacle text snag) (whole : source.toList = passed ++ text)
    (place : utf8Size passed = s.pos) (small : source.utf8ByteSize ≤ largestOffset) :
    ∃ form : FaultForm, form.Holds source s.pos (s.reject snag).1 := by
  cases obstacle with
  | dangling proper => exact danglingForm proper whole place small
  | @letter glyphs letter rest proper escaped =>
    have middle : source.toList =
        (passed ++ Glyph.lexeme glyphs) ++ ([escapeMark, letter] ++ rest) := by
      rw [whole, List.append_assoc]
      rfl
    obtain ⟨_, cut, _⟩ := faultCut small middle
    have start := (faultCut small whole).2.2
    rw [place] at start
    simp only [utf8SizeAppend, utf8SizeCons, utf8SizeNil, place, Nat.add_zero] at cut
    rw [← Nat.add_assoc _ escapeMark.utf8Size] at cut
    refine ⟨.escapedLetter, letter, rfl, ?_, escaped, passed, glyphs, rest, place, proper, cut⟩
    simp only [reject, Fault.escapedLetter, start]
  | @overflow first digits rest start inside stop large =>
    obtain ⟨exact, cut, _⟩ := faultCut small whole
    rw [place] at exact cut
    refine ⟨.overflow, first, digits, rfl, ?_, ?_, ⟨passed, rest, cut, ?_⟩, start, ?_, large⟩
    · simp only [reject, Fault.numberOverflow, exact]
    · simp only [reject, Fault.numberOverflow, exact]
    · intro c head
      exact (numeralExact c).mp (stop c head)
    · intro c member
      simpa [isNumeral] using inside c member

theorem yieldsForm {s after : Session} {fault : Fault} (asked : s.Yields (.error fault) after)
    (going : s.ended = false) (placed : s.Placed) (small : s.source.utf8ByteSize ≤ largestOffset) :
    ∃ offset, FirstUnblank s.source s.pos offset ∧ s.mode = .basic ∧ after.mode = .basic ∧
      ∃! form : FaultForm, form.Holds s.source offset fault := by
  cases asked with
  | exhausted ended => rw [going] at ended; contradiction
  | @fault blanks text snag _ gap first split basic obstacle =>
    obtain ⟨passed, whole, bytes⟩ := placed
    rw [split, ← List.append_assoc] at whole
    have place : utf8Size (passed ++ blanks) = (s.past blanks text).pos := by simp [past, bytes]
    obtain ⟨form, holds⟩ := obstacleForm obstacle whole place small
    refine ⟨s.pos + utf8Size blanks, ?_, basic, ?_, form, holds, ?_⟩
    · obtain ⟨c, rest, rfl⟩ := List.exists_cons_of_ne_nil (obstacleFilled obstacle)
      exact ⟨passed, blanks, c, rest, by rw [whole, List.append_assoc], bytes, place, gap, first c rfl⟩
    · rw [rejectKeeps]
      exact basic
    · intro other same
      exact (FaultForm.holdsForm same).trans (FaultForm.holdsForm holds).symm

end Session

/-- Where reading a source fails it does so in basic mode, at the first character after the tokens
and blanks that came before, and the fault has one form. -/
theorem failedSourceForm (source : String) (mode : Mode) (fault : Fault)
    (small : source.utf8ByteSize ≤ largestOffset) (failed : tokenize source mode = .error fault) :
    ∃ tokens offset,
      (Session.start source mode).results = tokens.map .ok ++ [.error fault] ∧
      FirstUnblank source (Session.lastStop 0 tokens) offset ∧
      (Session.start source mode).exhaust.mode = .basic ∧
      fault.cause ≠ .exhausted ∧ fault.cause ≠ .missingMode ∧
      ∃! form : FaultForm, form.Holds source offset fault := by
  obtain ⟨tokens, u, result, after, lead, asked, _, results, state⟩ :=
    Session.streamLead (Session.stepsStream (s := .start source mode) rfl)
  have same : result = .error fault := by
    cases result with
    | ok t =>
      have whole : tokenize source mode = .ok (tokens ++ [t]) := by
        rw [tokenize, Session.tokensExact, results, List.map_append]
        rfl
      rw [failed] at whole
      contradiction
    | error other =>
      have whole : tokenize source mode = .error other :=
        Session.firstFault.mpr ⟨tokens, [], results⟩
      rw [failed] at whole
      cases whole
      rfl
  subst same
  have place := Session.leadStop lead (Session.startBounded small mode)
  have origin := Session.leadSource lead
  obtain ⟨offset, first, _, basic, form, holds, only⟩ :=
    Session.yieldsForm asked (Session.leadGoing lead rfl)
      (Session.leadPlaced lead (Session.startPlaced source mode)) (origin ▸ small)
  rw [origin] at first holds
  rw [place] at first
  obtain ⟨noExhausted, noMissing⟩ := FaultForm.holdsCause holds
  refine ⟨tokens, offset, results, first, ?_, noExhausted, noMissing, form, holds, ?_⟩
  · rw [Session.exhaustLast state]
    exact basic
  · intro other also
    exact only other (origin ▸ also)

theorem openEscapeForm :
    "1 é\\#\\".utf8ByteSize ≤ largestOffset ∧
      tokenize "1 é\\#\\" .basic = .error ⟨⟨6, 7⟩, .danglingEscape, .word 2⟩ ∧
      ∃ tokens offset,
        (Session.start "1 é\\#\\" .basic).results =
          tokens.map .ok ++ [.error ⟨⟨6, 7⟩, .danglingEscape, .word 2⟩] ∧
        FirstUnblank "1 é\\#\\" (Session.lastStop 0 tokens) offset ∧
        (Session.start "1 é\\#\\" .basic).exhaust.mode = .basic ∧
        Cause.danglingEscape ≠ .exhausted ∧ Cause.danglingEscape ≠ .missingMode ∧
        ∃! form : FaultForm,
          form.Holds "1 é\\#\\" offset ⟨⟨6, 7⟩, .danglingEscape, .word 2⟩ :=
  ⟨by decide, by cbv, failedSourceForm _ _ _ (by decide) (by cbv)⟩

end ModalLexer
