import Mathlib
import ModalLexer.Proofs.Append
import ModalLexer.Proofs.Restart

/-! Sources joined by a space. A space ends every token without a change of mode, so the right
source is read as it would be alone, from the mode that the left one leads to. -/
namespace ModalLexer
open Unicode (isBlank)

theorem spaceHead (text : String) : (" " ++ text).toList = ' ' :: text.toList := by
  rw [String.toList_append]
  rfl

theorem spaceNoNumeral : isNumeral ' ' = false := by decide

theorem ruleSpace {mode kind lexeme rest next} (rule : Rule mode kind lexeme rest.head? next)
    (tail : List Char) : Rule mode kind lexeme (rest ++ ' ' :: tail).head? next := by
  cases rest with
  | cons c more => exact rule
  | nil => exact ruleSpaced (by simp) rule

def shiftTokens (bytes : Nat) : Except Fault (List Token) → Except Fault (List Token)
  | .ok tokens => .ok (tokens.map fun t => t.shift bytes)
  | .error fault => .error (fault.shift bytes)

namespace Session

theorem allShift (bytes : Nat) (results : List (Except Fault Token)) :
    (results.map (shiftResult bytes)).mapM id = shiftTokens bytes (results.mapM id) := by
  cases found : results.mapM id with
  | ok tokens =>
    rw [allOk] at found
    subst found
    exact allOk.mpr (by simp [shiftResult])
  | error fault =>
    obtain ⟨tokens, rest, rfl⟩ := firstFault.mp found
    exact firstFault.mpr ⟨tokens.map fun t => t.shift bytes, rest.map (shiftResult bytes),
      by simp [shiftResult]⟩

theorem allOnto (body : List Token) (results : List (Except Fault Token)) :
    (body.map Except.ok ++ results).mapM id = (results.mapM id).map (body ++ ·) := by
  cases found : results.mapM id with
  | ok tokens =>
    rw [allOk] at found
    subst found
    exact allOk.mpr List.map_append.symm
  | error fault =>
    obtain ⟨tokens, rest, rfl⟩ := firstFault.mp found
    exact firstFault.mpr ⟨body ++ tokens, rest, by simp⟩

theorem yieldsSpace {s after : Session} {t : Token} (asked : s.Yields (.ok t) after)
    (more : t.isEof = false) (right : String) :
    (s.extend (" " ++ right)).Yields (.ok t) (after.extend (" " ++ right)) := by
  cases asked with
  | eof => contradiction
  | token going gap first split rule =>
    refine tokenExtend going gap first split ?_
    rw [spaceHead]
    exact ruleSpace rule right.toList

/- A dangling escape alone is no longer one when a space comes after it. -/
theorem faultSpace {s after : Session} {fault : Fault} (asked : s.Yields (.error fault) after)
    (going : s.ended = false) (closed : fault.cause ≠ .danglingEscape) (right : String) :
    (s.extend (" " ++ right)).Yields (.error fault) (after.extend (" " ++ right)) := by
  cases asked with
  | exhausted ended => rw [going] at ended; contradiction
  | @fault blanks text snag _ gap first split basic obstacle =>
    refine faultExtend going gap first split basic obstacle ?_ ?_
    · rintro before rfl
      apply closed
      simp only [reject]
      split <;> rfl
    · rintro digits rfl c head
      rw [spaceHead] at head
      cases head
      exact spaceNoNumeral

theorem leadSpace {s u : Session} {tokens : List Token} (lead : Lead s tokens u) (right : String) :
    Lead (s.extend (" " ++ right)) tokens (u.extend (" " ++ right)) := by
  induction lead with
  | nil s => exact .nil _
  | cons asked more _ ih => exact .cons (yieldsSpace asked more right) more ih

theorem resultsPast {s : Session} {blanks text : List Char} (going : s.ended = false)
    (unfinished : s.finished = false) (split : s.rest = blanks ++ text)
    (gap : ∀ c ∈ blanks, isBlank c = true) : s.results = (s.past blanks text).results := by
  have skipped : s.skipBlanks = (s.past blanks text).skipBlanks := by
    simp only [skipBlanks, past, split, List.takeWhile_append_of_pos gap,
      List.dropWhile_append_of_pos gap, utf8SizeAppend, Nat.add_assoc]
  obtain ⟨result, after, asked⟩ : ∃ result after, (s.past blanks text).next = (result, after) :=
    ⟨_, _, rfl⟩
  have same : s.next = (result, after) := by
    have still : (s.past blanks text).ended = false := going
    rw [← asked, next, next, going, still, skipped]
    rfl
  rw [results, results, stepsNext unfinished same, stepsNext (s := s.past _ _) unfinished asked]

theorem yieldsShift {bytes : Nat} {s t after : Session} {result : Except Fault Token}
    (asked : t.Yields result after) (shifted : Shifted bytes s t) :
    ∃ later, s.Yields (shiftResult bytes result) later ∧ Shifted bytes later after := by
  obtain ⟨same, state⟩ := nextShift shifted
  rw [yieldsNext asked] at same state
  exact ⟨s.next.2, same ▸ s.nextYields, state⟩

theorem streamShift {bytes : Nat} {s t : Session} {steps : List Step} (stream : Stream t steps)
    (shifted : Shifted bytes s t) :
    ∃ moved, Stream s moved ∧
      moved.map Step.result = (steps.map Step.result).map (shiftResult bytes) := by
  induction stream generalizing s with
  | token asked more later ih =>
    obtain ⟨next, first, state⟩ := yieldsShift asked shifted
    obtain ⟨moved, stream, results⟩ := ih state
    exact ⟨_, .token first more stream, by rw [List.map_cons, results]; rfl⟩
  | @last t result after asked final =>
    obtain ⟨next, first, state⟩ := yieldsShift asked shifted
    refine ⟨_, .last first ?_, rfl⟩
    cases result with
    | ok t => exact final
    | error fault => rfl

theorem resultsShift {bytes : Nat} {s t : Session} (shifted : Shifted bytes s t)
    (unfinished : s.finished = false) (fresh : t.finished = false) :
    s.results = t.results.map (shiftResult bytes) := by
  obtain ⟨moved, stream, same⟩ := streamShift (stepsStream fresh) shifted
  rw [results, streamSteps stream unfinished, same, ← results]

theorem leadStays {s u : Session} {tokens : List Token} (lead : Lead s tokens u) :
    u.stop = s.stop := by
  induction lead with
  | nil => rfl
  | cons asked _ _ ih => exact ih.trans (yieldsStop asked)

theorem resultsRight {u : Session} {right : String} (going : u.ended = false)
    (unfinished : u.finished = false) (gap : ∀ c ∈ u.rest, isBlank c = true)
    (small : u.stop + 1 + right.utf8ByteSize ≤ largestOffset) :
    (u.extend (" " ++ right)).results =
      (start right u.mode).results.map (shiftResult (u.stop + 1)) := by
  have split : (u.extend (" " ++ right)).rest = (u.rest ++ [' ']) ++ right.toList := by
    rw [extend, spaceHead, List.append_assoc]
    rfl
  have blank : ∀ c ∈ u.rest ++ [' '], isBlank c = true := by
    intro c member
    rcases List.mem_append.mp member with inside | last
    · exact gap c inside
    · rw [List.mem_singleton.mp last]
      exact blankSpace
  have place : u.pos + utf8Size (u.rest ++ [' ']) = u.stop + 1 := by
    rw [utf8SizeAppend, stop, Nat.add_assoc]
    rfl
  rw [resultsPast (s := u.extend _) going unfinished split blank]
  refine resultsShift ⟨place.trans (Nat.zero_add _).symm, rfl, rfl, going, ?_⟩ unfinished rfl
  rw [← utf8SizeToList, ← place] at small
  exact small

end Session

/-- A source, a space and another source are read as the two sources one after the other. Where the
left one fails, the text after it changes nothing, but for a backslash at its end. -/
theorem spaceSeparates (left right : String) (mode : Mode)
    (small : (left ++ " " ++ right).utf8ByteSize ≤ largestOffset) :
    (∀ tokens, tokenize left mode = .ok tokens →
      ∃ body, tokens = body ++ [⟨.eof, .point left.utf8ByteSize⟩] ∧
        tokenize (left ++ " " ++ right) mode =
          (shiftTokens (left.utf8ByteSize + 1)
            (tokenize right (Session.start left mode).exhaust.mode)).map (body ++ ·)) ∧
    ∀ fault, tokenize left mode = .error fault → fault.cause ≠ .danglingEscape →
      tokenize (left ++ " " ++ right) mode = .error fault := by
  have whole : Session.start (left ++ " " ++ right) mode =
      (Session.start left mode).extend (" " ++ right) := by
    rw [String.append_assoc, Session.startExtend]
  have size : left.utf8ByteSize + 1 + right.utf8ByteSize ≤ largestOffset := by
    rwa [String.utf8ByteSize_append, String.utf8ByteSize_append] at small
  have bounded : (Session.start left mode).Bounded := Session.startBounded (by omega) mode
  constructor
  · intro tokens ok
    obtain ⟨body, u, t, after, lead, asked, final, rfl, state⟩ := Session.tokensLead rfl ok
    have stops := (Session.leadStays lead).trans (Session.startStop left mode)
    have fits : u.Bounded := Nat.le_trans (Nat.le_of_eq (Session.leadStays lead)) bounded
    obtain ⟨gap, rfl, same⟩ := Session.yieldsEof asked final fits
    refine ⟨body, by rw [← stops]; rfl, ?_⟩
    obtain ⟨unfinished, results⟩ := Session.leadResults (Session.leadSpace lead right) rfl
    have going := Session.leadGoing lead rfl
    rw [tokenize, whole, Session.tokens, results, Session.allOnto,
      Session.resultsRight going unfinished gap (stops ▸ size), Session.allShift, stops, state, same]
    rfl
  · intro fault failed closed
    obtain ⟨tokens, u, after, lead, asked⟩ := Session.faultLead rfl failed
    have longer := Session.faultSpace asked (Session.leadGoing lead rfl) closed right
    obtain ⟨unfinished, results⟩ := Session.leadResults (Session.leadSpace lead right) rfl
    rw [tokenize, whole, Session.tokens, results, Session.results,
      Session.stepsNext unfinished (Session.yieldsNext longer)]
    exact Session.firstFault.mpr ⟨tokens, _, rfl⟩

theorem faultBehindRun :
    ("é#a\\\t" ++ " " ++ "b# #\\d").utf8ByteSize ≤ largestOffset ∧
      tokenize "é#a\\\t" .basic =
        .ok [⟨.word "é", ⟨0, 2⟩⟩, ⟨.symbol '#', ⟨2, 3⟩⟩, ⟨.word "a\\\t", ⟨3, 6⟩⟩, ⟨.eof, ⟨6, 6⟩⟩] ∧
      (Session.start "é#a\\\t" .basic).exhaust.mode = .extended ∧
      tokenize ("é#a\\\t" ++ " " ++ "b# #\\d") .basic =
        .error ⟨⟨11, 13⟩, .escapedLetter 'd', .word 11⟩ ∧
      tokenize ("1.5" ++ " " ++ "#") .basic =
        .error ⟨⟨0, 3⟩, .numberOverflow "1.5", .number 0⟩ := by
  have small : ("é#a\\\t" ++ " " ++ "b# #\\d").utf8ByteSize ≤ largestOffset := by decide
  have left : tokenize "é#a\\\t" .basic = .ok [⟨.word "é", ⟨0, 2⟩⟩, ⟨.symbol '#', ⟨2, 3⟩⟩,
      ⟨.word "a\\\t", ⟨3, 6⟩⟩, ⟨.eof, ⟨6, 6⟩⟩] := by decide +kernel
  have mode : (Session.start "é#a\\\t" .basic).exhaust.mode = .extended := by decide +kernel
  have right : tokenize "b# #\\d" .extended =
      .error ⟨⟨4, 6⟩, .escapedLetter 'd', .word 4⟩ := by decide +kernel
  obtain ⟨body, _, whole⟩ := (spaceSeparates _ _ _ small).1 _ left
  rw [mode, right] at whole
  have number : tokenize "1.5" .basic = .error ⟨⟨0, 3⟩, .numberOverflow "1.5", .number 0⟩ := by
    decide +kernel
  exact ⟨small, left, mode, whole,
    (spaceSeparates "1.5" "#" .basic (by decide)).2 _ number (by decide)⟩

end ModalLexer
