import ModalLexer.Journal

/-! Recorders: sessions that write their journal as they go on. A change of mode is written where it
is made, and a token once it has been read; what is written comes to the journal of the run. -/
namespace ModalLexer

open Unicode (isLetter)

structure Recorder where
  session : Session
  events : List Event

namespace Recorder

def start (source : String) : Recorder := ⟨.start source, []⟩

def switchMode (r : Recorder) (target : Mode) (trigger : Trigger) : Recorder :=
  { session := { r.session with mode := target }
    events := r.events ++ Event.ofModes r.session.mode target r.session.pos trigger }

def setMode (r : Recorder) : Option Mode → Except Fault Unit × Recorder
  | none => (.error (.missingMode (clampOffset r.session.pos)), r)
  | some mode => (.ok (), r.switchMode mode .override)

def pass (r : Recorder) (lexeme rest : List Char) : Recorder :=
  { r with session := { r.session with pos := r.session.pos + utf8Size lexeme, rest := rest } }

def give (r : Recorder) (kind : Kind) (start : Nat) : Except Fault Token × Recorder :=
  let token := ⟨kind, .between start r.session.pos⟩
  (.ok token, { session := { r.session with current := some token }
                events := r.events ++ [.token token r.session.mode] })

def run (r : Recorder) : Except Fault Token × Recorder :=
  let lexeme := r.session.rest.takeWhile inRun
  let rest := r.session.rest.dropWhile inRun
  let after := r.pass lexeme rest
  let after := if rest.head? = some switchMark then after.switchMode .basic .runMetMark else after
  after.give (.word (String.ofList lexeme)) r.session.pos

def symbol (r : Recorder) (c : Char) (rest : List Char) : Except Fault Token × Recorder :=
  let after := r.pass [c] rest
  let after := if c = switchMark then after.switchMode r.session.mode.flipped .switchMark else after
  after.give (.symbol c) r.session.pos

def take (r : Recorder) : Except Snag Piece → Except Fault Token × Recorder
  | .ok p => (r.pass p.lexeme p.rest).give p.kind r.session.pos
  | .error snag =>
    let (fault, after) := r.session.reject snag
    (.error fault, { r with session := after })

def read (r : Recorder) : Except Fault Token × Recorder :=
  match r.session.rest with
  | [] => r.give .eof r.session.pos
  | c :: rest =>
    if r.session.mode = .extended ∧ c ≠ switchMark then r.run
    else if isLetter c || c == escapeMark then r.take (Piece.word (c :: rest))
    else if c.isDigit then r.take (Piece.number (c :: rest))
    else r.symbol c rest

def next (r : Recorder) : Except Fault Token × Recorder :=
  if r.session.ended then (.error (.exhausted (.point (clampOffset r.session.pos))), r)
  else { r with session := r.session.skipBlanks }.read

def pull (r : Recorder) : Option (Except Fault Token) × Recorder :=
  if r.session.finished then (none, r)
  else
    let (result, after) := r.next
    (some result, { after with session := { after.session with finished := Session.isLast result } })

def follow (r : Recorder) (step : Session.Step) : Recorder :=
  ⟨step.after, r.events ++ Event.ofStep r.session.mode step⟩

theorem changeNone (mode : Mode) (offset : Nat) (trigger : Trigger) :
    Event.ofModes mode mode offset trigger = [] := if_pos rfl

def Keeps (r : Recorder) (asked : Except Fault Token × Session)
    (told : Except Fault Token × Recorder) : Prop := told = (asked.1, r.follow ⟨asked.1, asked.2⟩)

theorem giveKeeps {r : Recorder} {p : Piece} (stays : p.mode = r.session.mode) :
    r.Keeps (.ok (r.session.accept p).1, (r.session.accept p).2)
      ((r.pass p.lexeme p.rest).give p.kind r.session.pos) := by
  simp [Keeps, pass, give, follow, Session.accept, Event.ofStep, stays, changeNone]

theorem runKeeps {r : Recorder} (extended : r.session.mode = .extended) :
    let (token, after) := r.session.accept (Piece.run r.session.rest)
    r.Keeps (.ok token, after) r.run := by
  simp only [Keeps, run, follow, Piece.run, Session.accept, Event.ofStep, Event.triggerOf]
  split
  · simp [switchMode, pass, give, extended]
  · simp [pass, give, extended, changeNone]

theorem markKeeps (r : Recorder) (rest : List Char) :
    let (token, after) := r.session.accept (Piece.symbol switchMark rest r.session.mode.flipped)
    r.Keeps (.ok token, after) (r.symbol switchMark rest) := by
  simp [Keeps, symbol, pass, switchMode, give, follow, Piece.symbol, Session.accept, Event.ofStep,
    Event.triggerOf]

theorem symbolKeeps (r : Recorder) {c : Char} (other : c ≠ switchMark) (rest : List Char) :
    let (token, after) := r.session.accept (Piece.symbol c rest r.session.mode)
    r.Keeps (.ok token, after) (r.symbol c rest) := by
  simp only [symbol, if_neg other]
  exact giveKeeps (p := Piece.symbol c rest r.session.mode) rfl

theorem takeKeeps {r : Recorder} {piece : Except Snag Piece} (basic : r.session.mode = .basic)
    (stays : ∀ p, piece = .ok p → p.mode = .basic)
    (same : Piece.read r.session.mode r.session.rest = piece) :
    r.Keeps r.session.read (r.take piece) := by
  rw [Session.read, same]
  cases piece with
  | error snag => simp [Keeps, take, follow, Event.ofStep]
  | ok p => exact giveKeeps ((stays p rfl).trans basic.symm)

theorem wordMode {text : List Char} {p : Piece} (ok : Piece.word text = .ok p) : p.mode = .basic := by
  rw [(Piece.closeWordParts ok).1]

theorem numberMode {text : List Char} {p : Piece} (ok : Piece.number text = .ok p) :
    p.mode = .basic := by
  unfold Piece.number at ok
  dsimp only at ok
  split at ok <;> cases ok
  rfl

theorem markApart : (isLetter switchMark || switchMark == escapeMark) = false ∧
    switchMark.isDigit = false := by decide +kernel

/- The cases are those of a piece. A mark is read alike in both modes. -/
theorem readKeeps (r : Recorder) : r.Keeps r.session.read r.read := by
  rw [read]
  cases text : r.session.rest with
  | nil =>
    simp [Keeps, give, follow, Session.read, text, Piece.read, Session.accept, Event.ofStep, changeNone]
  | cons c rest =>
    dsimp only
    by_cases mark : c = switchMark
    · subst mark
      have keeps := markKeeps r rest
      simpa [Session.read, text, Piece.read, markApart] using keeps
    · cases mode : r.session.mode with
      | extended =>
        have keeps := runKeeps mode
        simpa [Session.read, text, mode, Piece.read, mark] using keeps
      | basic =>
        rw [if_neg (by simp)]
        by_cases letter : (isLetter c || c == escapeMark) = true
        · rw [if_pos letter]
          exact takeKeeps mode (fun _ => wordMode)
            (by simp only [text, mode, Piece.read, mark, letter, if_true, if_false])
        · rw [if_neg letter]
          by_cases digit : c.isDigit = true
          · rw [if_pos digit]
            exact takeKeeps mode (fun _ => numberMode)
              (by simp [text, mode, Piece.read, mark, letter, digit])
          · rw [if_neg digit]
            have keeps := symbolKeeps r mark rest
            simpa [Session.read, text, mode, Piece.read, mark, letter, digit] using keeps

theorem nextKeeps (r : Recorder) : r.Keeps r.session.next r.next := by
  rw [next, Session.next]
  split
  · simp [Keeps, follow, Event.ofStep]
  · exact readKeeps { r with session := r.session.skipBlanks }

theorem pullFollows (r : Recorder) :
    r.pull = match r.session.pull with
      | (none, _) => (none, r)
      | (some result, after) => (some result, r.follow ⟨result, after⟩) := by
  rw [pull, Session.pull]
  split
  · rfl
  · rw [nextKeeps r]
    rfl

theorem pullRemaining {r after : Recorder} {result : Except Fault Token}
    (pulled : r.pull = (some result, after)) : after.session.remaining < r.session.remaining := by
  rw [pullFollows] at pulled
  split at pulled
  · cases pulled
  · next same =>
    cases pulled
    exact Session.pullRemaining same

def drain (r : Recorder) : Recorder :=
  match _pulled : r.pull with
  | (none, _) => r
  | (some _, after) => drain after
termination_by r.session.remaining
decreasing_by exact pullRemaining _pulled

theorem drainUnfold (r : Recorder) :
    r.drain = match r.session.pull with
      | (none, _) => r
      | (some result, after) => (r.follow ⟨result, after⟩).drain := by
  rw [drain]
  split
  · next pulled =>
    rw [pullFollows] at pulled
    split at pulled
    · simp [*]
    · cases pulled
  · next pulled =>
    rw [pullFollows] at pulled
    split at pulled
    · cases pulled
    · cases pulled
      simp [*]

end Recorder

def Options.recorded (options : Options) (source : String) : List Event :=
  match (Recorder.start source).setMode options.mode with
  | (.ok _, r) => r.drain.events
  | (.error _, r) => r.events

end ModalLexer
