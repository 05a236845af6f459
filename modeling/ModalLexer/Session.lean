import ModalLexer.Fault
import ModalLexer.Piece
import ModalLexer.Unicode.Blank

/-! Sessions: one source read token by token. A session may be asked again after a fault; it goes
on from the place where the fault left it. -/
namespace ModalLexer

open Unicode (isBlank)

/-- `rest` is what follows the first `pos` bytes of `source`, and all that reading looks at. A
session is finished once a pull has given the end of input or a fault. -/
structure Session where
  source : String
  pos : Nat
  rest : List Char
  mode : Mode
  current : Option Token
  finished : Bool
  deriving Repr

namespace Session

def start (source : String) (mode : Mode := default) : Session :=
  ⟨source, 0, source.toList, mode, none, false⟩

def atEnd (s : Session) : Bool := s.rest.isEmpty

def ended (s : Session) : Bool :=
  match s.current with
  | some t => t.isEof
  | none => false

def setMode (s : Session) : Option Mode → Except Fault Unit × Session
  | none => (.error (.missingMode (clampOffset s.pos)), s)
  | some mode => (.ok (), { s with mode := mode })

def skipBlanks (s : Session) : Session :=
  { s with
    pos := s.pos + utf8Size (s.rest.takeWhile isBlank)
    rest := s.rest.dropWhile isBlank }

def accept (s : Session) (p : Piece) : Token × Session :=
  let stop := s.pos + utf8Size p.lexeme
  let token := ⟨p.kind, .between s.pos stop⟩
  (token, { s with pos := stop, rest := p.rest, mode := p.mode, current := some token })

/-- The fault that a snag is at the front of the session, and the session after it. A backslash
alone before the end of input is met between tokens, and the session stays before it; any other
text of a fault is passed over. -/
def reject (s : Session) : Snag → Fault × Session
  | .danglingEscape before =>
    let slash := s.pos + utf8Size before
    let stop := slash + escapeMark.utf8Size
    if before = [] then (.danglingEscape (.between slash stop) .topLevel, s)
    else
      (.danglingEscape (.between slash stop) (.word (clampOffset s.pos)),
        { s with pos := stop, rest := [] })
  | .escapedLetter before letter rest =>
    let slash := s.pos + utf8Size before
    let stop := slash + escapeMark.utf8Size + letter.utf8Size
    (.escapedLetter (.between slash stop) letter (clampOffset s.pos),
      { s with pos := stop, rest := rest })
  | .numberOverflow digits rest =>
    let stop := s.pos + utf8Size digits
    (.numberOverflow (.between s.pos stop) (String.ofList digits),
      { s with pos := stop, rest := rest })

def read (s : Session) : Except Fault Token × Session :=
  match Piece.read s.mode s.rest with
  | .ok piece => let (token, after) := s.accept piece; (.ok token, after)
  | .error snag => let (fault, after) := s.reject snag; (.error fault, after)

def next (s : Session) : Except Fault Token × Session :=
  if s.ended then (.error (.exhausted (.point (clampOffset s.pos))), s) else s.skipBlanks.read

def isLast : Except Fault Token → Bool
  | .ok token => token.isEof
  | .error _ => true

def pull (s : Session) : Option (Except Fault Token) × Session :=
  if s.finished then (none, s)
  else
    let (result, after) := s.next
    (some result, { after with finished := isLast result })

def remaining (s : Session) : Nat := if s.finished then 0 else s.rest.length + 1

theorem headAfterBlanks (s : Session) : s.skipBlanks.rest.head? ≠ some ' ' := by
  intro space
  have unblank := List.head?_dropWhile_not isBlank s.rest
  have blank : isBlank ' ' = true := by decide
  rw [skipBlanks] at space
  rw [space] at unblank
  simp [blank] at unblank

theorem skipBlanksLength (s : Session) : s.skipBlanks.rest.length ≤ s.rest.length :=
  (List.dropWhile_suffix isBlank).length_le

theorem readAdvances {s : Session} {t : Token} (unblank : s.rest.head? ≠ some ' ')
    (ok : s.read.1 = .ok t) (more : t.isEof = false) : s.read.2.rest.length < s.rest.length := by
  unfold read at ok ⊢
  cases found : Piece.read s.mode s.rest with
  | error snag => simp [found] at ok
  | ok p =>
    simp only [found, accept] at ok ⊢
    cases ok
    have kept : p.kind ≠ .eof := by
      intro same
      simp [Token.isEof, same] at more
    have parts := congrArg List.length (Piece.readSplits found)
    have advances := List.length_pos_iff.mpr (Piece.readAdvances unblank found kept)
    rw [List.length_append] at parts
    omega

theorem nextAdvances {s : Session} {t : Token} (ok : s.next.1 = .ok t) (more : t.isEof = false) :
    s.next.2.rest.length < s.rest.length := by
  by_cases ended : s.ended = true
  · simp [next, ended] at ok
  · simp only [next, ended] at ok ⊢
    exact Nat.lt_of_lt_of_le (readAdvances s.headAfterBlanks ok more) s.skipBlanksLength

theorem pullRemaining {s after : Session} {result : Except Fault Token}
    (pulled : s.pull = (some result, after)) : after.remaining < s.remaining := by
  by_cases finished : s.finished = true
  · simp [pull, finished] at pulled
  · rw [pull, if_neg finished] at pulled
    simp only [Prod.mk.injEq, Option.some.injEq] at pulled
    obtain ⟨same, state⟩ := pulled
    subst state
    rw [remaining, remaining, if_neg finished]
    cases result with
    | error fault => simp [same, isLast]
    | ok t =>
      cases more : t.isEof with
      | true => simp [same, isLast, more]
      | false =>
        have shorter := nextAdvances same more
        simp only [same, isLast, more, Bool.false_eq_true, if_false]
        omega

structure Step where
  result : Except Fault Token
  after : Session

def stepsOnto (taken : List Step) (s : Session) : List Step :=
  match _pulled : s.pull with
  | (none, _) => taken.reverse
  | (some result, after) => stepsOnto (⟨result, after⟩ :: taken) after
termination_by s.remaining
decreasing_by exact pullRemaining _pulled

def steps (s : Session) : List Step := stepsOnto [] s

theorem stepsOntoTaken (taken : List Step) (s : Session) :
    stepsOnto taken s = taken.reverse ++ s.steps := by
  induction same : s.remaining using Nat.strongRecOn generalizing taken s with
  | _ n ih =>
    rw [steps, stepsOnto, stepsOnto]
    split
    · simp
    · next result after pulled =>
      have fewer := same ▸ pullRemaining pulled
      rw [ih _ fewer (⟨result, after⟩ :: taken) after rfl, ih _ fewer [⟨result, after⟩] after rfl]
      simp

theorem stepsUnfold (s : Session) :
    s.steps =
      match s.pull with
      | (none, _) => []
      | (some result, after) => ⟨result, after⟩ :: after.steps := by
  rw [steps, stepsOnto]
  split
  · next pulled => simp [pulled]
  · next pulled => simp [pulled, stepsOntoTaken]

def exhaust (s : Session) : Session :=
  match s.steps.getLast? with
  | some step => step.after
  | none => s

def results (s : Session) : List (Except Fault Token) := s.steps.map Step.result

def tokens (s : Session) : Except Fault (List Token) := s.results.mapM id

end Session

def tokenize (source : String) (mode : Mode := default) : Except Fault (List Token) :=
  (Session.start source mode).tokens

end ModalLexer
