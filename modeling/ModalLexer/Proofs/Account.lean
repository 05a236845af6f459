import Mathlib
import ModalLexer.Proofs.Stream

/-! The mode of a reading, told from its tokens. Switch marks flip the mode, and nothing else does in
the long run: what a run before a mark changes, that mark changes back. -/
namespace ModalLexer
open Unicode (isBlank)

namespace Session

structure Turn where
  before : Session
  step : Step

def turnsFrom (s : Session) : List Step → List Turn
  | [] => []
  | step :: later => ⟨s, step⟩ :: turnsFrom step.after later

def turns (s : Session) : List Turn := turnsFrom s s.steps

namespace Turn

def kind? (t : Turn) : Option Kind :=
  match t.step.result with
  | .ok token => some token.kind
  | .error _ => none

def start (t : Turn) : Nat := t.before.skipBlanks.pos

def stop (t : Turn) : Nat := t.step.after.pos

def isMark (t : Turn) : Bool := t.kind? == some (.symbol switchMark)

def isRun (t : Turn) : Bool := t.before.mode == .extended && (t.kind?.bind Kind.word?).isSome

def glued (run mark : Turn) : Bool := run.isRun && mark.isMark && run.stop == mark.start

def loose (last : Option Turn) (t : Turn) : Nat :=
  if t.isMark && !last.any (glued · t) then 1 else 0

def looseMarks (last : Option Turn) : List Turn → Nat
  | [] => 0
  | t :: later => loose last t + looseMarks (some t) later

end Turn

inductive Effect (s : Session) (kind : Kind) (after : Session) : Prop where
  | mark {blanks} (same : kind = .symbol switchMark) (gap : ∀ c ∈ blanks, isBlank c = true)
      (split : s.rest = blanks ++ switchMark :: after.rest)
      (flips : after.mode = s.mode.flipped) : Effect s kind after
  | run {text} (same : kind = .word text) (extended : s.mode = .extended)
      (next : after.mode = if after.rest.head? = some switchMark then .basic else .extended) :
      Effect s kind after
  | quiet (noMark : kind ≠ .symbol switchMark)
      (noRun : s.mode = .extended → ∀ text, kind ≠ .word text) (stays : after.mode = s.mode)
      (calm : s.mode = .basic ∨ after.rest = []) : Effect s kind after

theorem yieldsEffect {s after : Session} {t : Token} (asked : s.Yields (.ok t) after) :
    Effect s t.kind after := by
  cases asked with
  | eof => exact .quiet (by simp [accept]) (by simp [accept]) rfl (.inr rfl)
  | @token blanks lexeme rest kind next going gap first split rule =>
    generalize ahead : s.mode = mode at rule
    generalize follows : rest.head? = follow at rule
    cases rule with
    | mark =>
      refine .mark rfl gap split ?_
      rw [ahead]
      rfl
    | run filled inside stop =>
      refine .run rfl ahead ?_
      rw [← follows]
      rfl
    | word | number =>
      refine .quiet (by simp [accept]) ?_ ahead.symm (.inl ahead)
      rw [ahead]
      simp
    | symbol noLetter noDigit noEscape noMark =>
      refine .quiet (by simpa [accept] using noMark) ?_ ahead.symm (.inl ahead)
      rw [ahead]
      simp

theorem markBlank : isBlank switchMark = false := by decide

theorem markYields {s : Session} {rest : List Char} (going : s.ended = false)
    (front : s.rest = switchMark :: rest) :
    s.Yields
      (.ok ((s.past [] (switchMark :: rest)).accept
        (.symbol switchMark rest s.mode.flipped)).1)
      ((s.past [] (switchMark :: rest)).accept (.symbol switchMark rest s.mode.flipped)).2 :=
  @Yields.token s [] [switchMark] rest _ _ going (by simp) (by simp [markBlank]) front (.mark s.mode _)

theorem skipBlanksSplit {s : Session} {blanks : List Char} {c : Char} {rest : List Char}
    (gap : ∀ c ∈ blanks, isBlank c = true) (first : isBlank c = false)
    (split : s.rest = blanks ++ c :: rest) : s.skipBlanks.pos = s.pos + utf8Size blanks := by
  rw [skipBlanksPast split gap (by simpa using first)]
  rfl

def owedMode (last : Option Turn) (s : Session) : Mode :=
  if last.any Turn.isRun = true ∧ s.rest.head? = some switchMark then .extended else s.mode

def Follows (last : Option Turn) (s : Session) : Prop :=
  ∀ w ∈ last, w.stop = s.pos ∧
    (w.isRun = true → s.mode = if s.rest.head? = some switchMark then .basic else .extended)

theorem runExact {s after : Session} {t : Token} :
    Turn.isRun ⟨s, ⟨.ok t, after⟩⟩ = true ↔ s.mode = .extended ∧ ∃ text, t.kind = .word text := by
  rw [Turn.isRun, Bool.and_eq_true, beq_iff_eq]
  refine and_congr Iff.rfl ?_
  cases kind : t.kind <;> simp [Turn.kind?, kind, Kind.word?]

theorem markExact {s after : Session} {t : Token} :
    Turn.isMark ⟨s, ⟨.ok t, after⟩⟩ = true ↔ t.kind = .symbol switchMark := by
  rw [Turn.isMark, beq_iff_eq]
  exact Option.some_inj

theorem quietTurn {s after : Session} {t : Token} (noMark : t.kind ≠ .symbol switchMark)
    (noRun : s.mode = .extended → ∀ text, t.kind ≠ .word text) :
    Turn.isMark ⟨s, ⟨.ok t, after⟩⟩ = false ∧ Turn.isRun ⟨s, ⟨.ok t, after⟩⟩ = false := by
  rw [Bool.eq_false_iff, Bool.eq_false_iff, ne_eq, ne_eq, markExact, runExact]
  exact ⟨noMark, fun ⟨extended, text, word⟩ => noRun extended text word⟩

theorem turnFollows {s after u : Session} {t : Token} (asked : s.Yields (.ok t) after)
    (state : u = { after with finished := u.finished }) : Follows (some ⟨s, ⟨.ok t, u⟩⟩) u := by
  rintro w ⟨⟩
  refine ⟨rfl, ?_⟩
  intro run
  obtain ⟨extended, text, word⟩ := runExact.mp run
  rw [state]
  cases yieldsEffect asked with
  | mark same => rw [same] at word; contradiction
  | run _ _ next => exact next
  | quiet _ noRun => exact absurd word (noRun extended text)

theorem markBehindRun {s after : Session} {w : Turn} {t : Token} (going : s.ended = false)
    (follows : Follows (some w) s) (run : w.isRun = true) (ahead : s.rest.head? = some switchMark)
    (asked : s.Yields (.ok t) after) :
    Turn.glued w ⟨s, ⟨.ok t, after⟩⟩ = true ∧ after.mode = .extended := by
  obtain ⟨stop, modes⟩ := follows w rfl
  obtain ⟨rest, front⟩ := List.head?_eq_some_iff.mp ahead
  obtain ⟨same, rfl⟩ := yieldsUnique (markYields going front) asked
  cases same
  have start := skipBlanksSplit (by simp) markBlank (show s.rest = [] ++ switchMark :: rest from front)
  have basic := (modes run).trans (if_pos ahead)
  refine ⟨?_, ?_⟩
  · simp only [Turn.glued, run, Bool.true_and, Bool.and_eq_true, beq_iff_eq]
    exact ⟨markExact.mpr rfl, stop.trans start.symm⟩
  · exact congrArg Mode.flipped basic

theorem gluedAhead {s after u : Session} {w : Turn} {t : Token} (follows : Follows (some w) s)
    (asked : s.Yields (.ok t) after) (glued : Turn.glued w ⟨s, ⟨.ok t, u⟩⟩ = true) :
    w.isRun = true ∧ s.rest.head? = some switchMark := by
  simp only [Turn.glued, Bool.and_eq_true, beq_iff_eq] at glued
  obtain ⟨⟨run, mark⟩, touching⟩ := glued
  refine ⟨run, ?_⟩
  cases yieldsEffect asked with
  | @mark blanks same gap split flips =>
    have start := skipBlanksSplit gap markBlank split
    have none : utf8Size blanks = 0 := by
      rw [(follows w rfl).1, Turn.start, start] at touching
      omega
    rw [split, utf8SizeZero none]
    rfl
  | run same => rw [markExact, same] at mark; contradiction
  | quiet noMark => exact absurd (markExact.mp mark) noMark

theorem looseGlued {w t : Turn} (glued : Turn.glued w t = true) : Turn.loose (some w) t = 0 := by
  simp [Turn.loose, glued]

theorem loosePlain {last : Option Turn} {t : Turn} (noMark : t.isMark = false) :
    Turn.loose last t = 0 := by
  simp [Turn.loose, noMark]

theorem owedPlain {last : Option Turn} {s : Session}
    (clear : ¬(last.any Turn.isRun = true ∧ s.rest.head? = some switchMark)) :
    owedMode last s = s.mode := if_neg clear

theorem owedAfter {after : Session} {t : Turn} (noRun : t.isRun = false) :
    owedMode (some t) after = after.mode :=
  owedPlain (by simp [noRun])

theorem markNoRun {t : Turn} (mark : t.isMark = true) : t.isRun = false := by
  rw [Turn.isMark, beq_iff_eq] at mark
  simp [Turn.isRun, mark, Kind.word?]

theorem gluedAccount {w : Turn} {s after : Session} {t : Token} (going : s.ended = false)
    (follows : Follows (some w) s) (run : w.isRun = true) (ahead : s.rest.head? = some switchMark)
    (asked : s.Yields (.ok t) after) :
    owedMode (some ⟨s, ⟨.ok t, after⟩⟩) after =
      Mode.flipped^[Turn.loose (some w) ⟨s, ⟨.ok t, after⟩⟩] (owedMode (some w) s) := by
  obtain ⟨glued, extended⟩ := markBehindRun going follows run ahead asked
  have mark := glued
  simp only [Turn.glued, Bool.and_eq_true] at mark
  rw [owedAfter (markNoRun mark.1.2), looseGlued glued, extended, owedMode, if_pos ⟨run, ahead⟩]
  rfl

theorem stepAccount {last : Option Turn} {s after : Session} {t : Token} (going : s.ended = false)
    (follows : Follows last s) (asked : s.Yields (.ok t) after) :
    owedMode (some ⟨s, ⟨.ok t, after⟩⟩) after =
      Mode.flipped^[Turn.loose last ⟨s, ⟨.ok t, after⟩⟩] (owedMode last s) := by
  by_cases pending : last.any Turn.isRun = true ∧ s.rest.head? = some switchMark
  · cases last with
    | none => exact absurd pending.1 (by simp)
    | some w => exact gluedAccount going follows pending.1 pending.2 asked
  rw [owedPlain pending]
  cases yieldsEffect asked with
  | mark same gap split flips =>
    have mark : Turn.isMark ⟨s, ⟨.ok t, after⟩⟩ = true := markExact.mpr same
    have apart : last.any (Turn.glued · ⟨s, ⟨.ok t, after⟩⟩) = false := by
      cases last with
      | none => rfl
      | some w => exact Bool.eq_false_iff.mpr fun glued => pending (gluedAhead follows asked glued)
    rw [owedAfter (markNoRun mark), flips, Turn.loose, mark, apart]
    rfl
  | run same extended next =>
    have noMark : Turn.isMark ⟨s, ⟨.ok t, after⟩⟩ = false := by
      rw [Bool.eq_false_iff, ne_eq, markExact, same]
      simp
    have run : Turn.isRun ⟨s, ⟨.ok t, after⟩⟩ = true := runExact.mpr ⟨extended, _, same⟩
    rw [loosePlain noMark, owedMode, extended, next]
    simp [run]
  | quiet noMark noRun stays =>
    have still := @quietTurn s after t noMark noRun
    rw [owedAfter still.2, loosePlain still.1, stays]
    rfl

theorem faultAccount {last : Option Turn} {s after : Session} {fault : Fault}
    (going : s.ended = false) (asked : s.Yields (.error fault) after) :
    owedMode last s = after.mode := by
  rw [faultKeeps asked]
  apply owedPlain
  rintro ⟨_, ahead⟩
  obtain ⟨rest, front⟩ := List.head?_eq_some_iff.mp ahead
  obtain ⟨same, _⟩ := yieldsUnique (markYields going front) asked
  contradiction

/- By induction on the stream: the mode at its end is the one owed at its start, flipped by every
mark that counts. -/
theorem streamAccount {s : Session} {steps : List Step} (stream : Stream s steps)
    (going : s.ended = false) {last : Option Turn} (follows : Follows last s) {u : Session}
    (state : steps.getLast?.map Step.after = some u) :
    u.mode = Mode.flipped^[Turn.looseMarks last (turnsFrom s steps)] (owedMode last s) := by
  induction stream generalizing last with
  | @token s t after steps asked more later ih =>
    have still : steps.getLast?.map Step.after = some u := by
      cases later with
      | token | last => rwa [List.getLast?_cons_cons] at state
    rw [ih (yieldsGoing asked more) (turnFollows asked rfl) still, stepAccount going follows asked,
      ← Function.iterate_add_apply, Nat.add_comm]
    rfl
  | @last s result after asked final =>
    cases state
    simp only [turnsFrom, Turn.looseMarks, Nat.add_zero]
    cases result with
    | error fault =>
      rw [loosePlain rfl, faultAccount going asked]
      rfl
    | ok t =>
      have eof := isEofExact.mp final
      have still := @quietTurn s after t (by simp [eof]) (by simp [eof])
      have account := stepAccount going follows asked
      rw [owedAfter still.2] at account
      exact account

theorem turnAsked {P : Session → Prop}
    (keeps : ∀ s t after, P s → s.Yields (.ok t) after → P after) {s : Session}
    {steps : List Step} (stream : Stream s steps) (holds : P s) :
    ∀ t ∈ turnsFrom s steps, P t.before ∧ ∃ after, t.before.Yields t.step.result after ∧
      t.step.after = { after with finished := t.step.after.finished } := by
  induction stream with
  | @token s t after steps asked more later ih =>
    intro turn member
    rcases List.mem_cons.mp member with rfl | member
    · exact ⟨holds, after, asked, rfl⟩
    · exact ih (keeps s t after holds asked) turn member
  | last asked final =>
    intro turn member
    obtain rfl := List.mem_singleton.mp member
    exact ⟨holds, _, asked, rfl⟩

theorem turnSpan {s : Session} {steps : List Step} (stream : Stream s steps) (bounded : s.Bounded) :
    ∀ turn ∈ turnsFrom s steps, ∀ t, turn.step.result = .ok t → t.span = ⟨turn.start, turn.stop⟩ := by
  intro turn member t found
  obtain ⟨bounded, after, asked, same⟩ :=
    turnAsked (fun _ _ _ bounded asked => yieldsBounded asked bounded) stream bounded turn member
  rw [found] at asked
  rw [tokenSpan asked bounded, Turn.stop, same]
  rfl

theorem turnsLinked {s : Session} {steps : List Step} {i : Nat} {t next : Turn}
    (first : (turnsFrom s steps)[i]? = some t) (second : (turnsFrom s steps)[i + 1]? = some next) :
    next.before = t.step.after := by
  induction steps generalizing s i with
  | nil => simp [turnsFrom] at first
  | cons step later ih =>
    cases i with
    | succ i => exact ih first second
    | zero =>
      cases later with
      | nil => simp [turnsFrom] at second
      | cons step more =>
        cases first
        cases second
        rfl

theorem turnsSteps (s : Session) (steps : List Step) : (turnsFrom s steps).map Turn.step = steps := by
  induction steps generalizing s with
  | nil => rfl
  | cons step later ih => simp [turnsFrom, ih]

theorem turnsResults (s : Session) (steps : List Step) :
    (turnsFrom s steps).map (fun t => t.step.result) = steps.map Step.result := by
  rw [← turnsSteps s steps, List.map_map, turnsSteps]
  rfl

def Fresh (source : String) (s : Session) : Prop :=
  ∃ passed, source.toList = passed ++ s.rest ∧ utf8Size passed = s.pos ∧
    (s.mode = .extended → s.rest.head? = some switchMark →
      ∀ c ∈ passed.getLast?, isBlank c = true ∨ c = switchMark)

theorem startFresh (source : String) (mode : Mode) : Fresh source (start source mode) :=
  ⟨[], rfl, rfl, fun _ _ => by simp⟩

theorem yieldsFresh {source : String} {s after : Session} {t : Token} (fresh : Fresh source s)
    (asked : s.Yields (.ok t) after) : Fresh source after := by
  obtain ⟨passed, whole, bytes, _⟩ := fresh
  obtain ⟨_, taken, front, place⟩ := yieldsTaken asked
  refine ⟨passed ++ taken, by rw [whole, front, List.append_assoc],
    by rw [utf8SizeAppend, bytes, place], ?_⟩
  intro extended ahead
  cases yieldsEffect asked with
  | @mark blanks same gap split =>
    have tail : taken = blanks ++ [switchMark] := by
      apply (List.append_left_inj after.rest).mp
      rw [← front, split, List.append_assoc]
      rfl
    rw [tail, ← List.append_assoc, List.getLast?_concat]
    rintro c ⟨⟩
    exact .inr rfl
  | run _ _ next =>
    rw [if_pos ahead, extended] at next
    contradiction
  | quiet _ _ stays calm =>
    rcases calm with basic | empty
    · rw [stays, basic] at extended
      contradiction
    · rw [empty] at ahead
      contradiction

def OpensBasic (source : String) (offset : Nat) : Prop :=
  ∃ before after, source.toList = before ++ switchMark :: after ∧ utf8Size before = offset ∧
    ∀ c ∈ before.getLast?, isBlank c = true ∨ c = switchMark

theorem markOpens {source : String} {s after : Session} {t : Token} (fresh : Fresh source s)
    (asked : s.Yields (.ok t) after) (mark : t.kind = .symbol switchMark)
    (basic : after.mode = .basic) : OpensBasic source s.skipBlanks.pos := by
  obtain ⟨passed, whole, bytes, before⟩ := fresh
  cases yieldsEffect asked with
  | @mark blanks same gap split flips =>
    refine ⟨passed ++ blanks, after.rest, by rw [whole, split, List.append_assoc], ?_, ?_⟩
    · rw [skipBlanksSplit gap markBlank split, utf8SizeAppend, bytes]
    · intro c last
      rw [List.getLast?_append] at last
      cases tail : blanks.getLast? with
      | some b =>
        rw [tail] at last
        cases last
        exact .inl (gap c (List.mem_of_getLast? tail))
      | none =>
        obtain rfl := List.getLast?_eq_none_iff.mp tail
        have extended : s.mode = .extended := by
          cases mode : s.mode with
          | extended => rfl
          | basic => rw [flips, mode] at basic; contradiction
        exact before extended (by rw [split]; rfl) c last
  | run same => rw [same] at mark; contradiction
  | quiet noMark => contradiction

theorem quietMode {t : Turn} {after : Session} (asked : t.before.Yields t.step.result after)
    (noRun : t.isRun = false) (noMark : t.isMark = false) : after.mode = t.before.mode := by
  obtain ⟨before, result, u⟩ := t
  cases result with
  | error fault => rw [faultKeeps asked]
  | ok token =>
    cases yieldsEffect asked with
    | mark same => exact absurd (markExact.mpr same) (Bool.eq_false_iff.mp noMark)
    | run same extended => exact absurd (runExact.mpr ⟨extended, _, same⟩) (Bool.eq_false_iff.mp noRun)
    | quiet _ _ stays => exact stays

theorem runAsked {t : Turn} (run : t.isRun = true) : ∃ token, t.step.result = .ok token := by
  cases found : t.step.result with
  | ok token => exact ⟨token, rfl⟩
  | error fault => simp [Turn.isRun, Turn.kind?, found] at run

theorem markAsked {t : Turn} (mark : t.isMark = true) :
    ∃ token, t.step.result = .ok token ∧ token.kind = .symbol switchMark := by
  cases found : t.step.result with
  | ok token => exact ⟨token, rfl, by simpa [Turn.isMark, Turn.kind?, found] using mark⟩
  | error fault => simp [Turn.isMark, Turn.kind?, found] at mark

theorem gluedExtends {s : Session} {steps : List Step} (stream : Stream s steps) {i : Nat}
    {run mark : Turn} (first : (turnsFrom s steps)[i]? = some run)
    (second : (turnsFrom s steps)[i + 1]? = some mark) (glued : Turn.glued run mark = true) :
    mark.step.after.mode = .extended := by
  have parts := glued
  simp only [Turn.glued, Bool.and_eq_true] at parts
  have asked := turnAsked (P := fun _ => True) (fun _ _ _ _ _ => trivial) stream trivial
  obtain ⟨_, between, reads, passes⟩ := asked run (List.mem_of_getElem? first)
  obtain ⟨_, after, marks, ends⟩ := asked mark (List.mem_of_getElem? second)
  obtain ⟨word, wordFound⟩ := runAsked parts.1.1
  obtain ⟨token, markFound, _⟩ := markAsked parts.1.2
  have linked := turnsLinked first second
  obtain ⟨_, _, _⟩ := run
  obtain ⟨_, _, _⟩ := mark
  dsimp only at *
  subst linked wordFound markFound
  obtain ⟨isRun, ahead⟩ := gluedAhead (turnFollows reads passes) marks glued
  rw [ends]
  exact (markBehindRun (yieldsOpen marks) (turnFollows reads passes) isRun ahead marks).2

end Session

/-- The mode at the end of a source is the one at its start, flipped once for each switch mark that
is not glued to a run. -/
theorem looseMarksFlip (source : String) (mode : Mode) (tokens : List Token)
    (ok : tokenize source mode = .ok tokens) :
    let turns := (Session.start source mode).turns
    turns.map (fun t => t.step.result) = tokens.map .ok ∧
      (source.utf8ByteSize ≤ largestOffset → ∀ turn ∈ turns, ∀ t, turn.step.result = .ok t →
        t.span = ⟨turn.start, turn.stop⟩) ∧
      (Session.start source mode).exhaust.mode =
        Mode.flipped^[Session.Turn.looseMarks none turns] mode ∧
      (∀ (i : Nat) (run mark : Session.Turn), turns[i]? = some run → turns[i + 1]? = some mark →
        Session.Turn.glued run mark = true → mark.step.after.mode = .extended) ∧
      (∀ turn ∈ turns, turn.isRun = false → turn.isMark = false →
        turn.step.after.mode = turn.before.mode) ∧
      ∀ turn ∈ turns, turn.isMark = true → turn.step.after.mode = .basic →
        Session.OpensBasic source turn.start := by
  have stream := Session.stepsStream (s := .start source mode) rfl
  have results := Session.tokensExact.mp ok
  intro turns
  refine ⟨?_, ?_, ?_, ?_, ?_, ?_⟩
  · exact (Session.turnsResults _ _).trans results
  · exact fun small => Session.turnSpan stream (Session.startBounded small mode)
  · obtain ⟨_, _, _, after, _, _, _, _, state⟩ := Session.streamLead stream
    rw [Session.exhaustLast state]
    have fresh : Session.Follows none (Session.start source mode) := by simp [Session.Follows]
    exact Session.streamAccount stream rfl fresh state
  · intro i run mark first second
    exact Session.gluedExtends stream first second
  · intro turn member noRun noMark
    obtain ⟨_, after, asked, same⟩ := Session.turnAsked (P := fun _ => True)
      (fun _ _ _ _ _ => trivial) stream trivial turn member
    have quiet := Session.quietMode asked noRun noMark
    rw [same]
    exact quiet
  · intro turn member mark basic
    obtain ⟨fresh, after, asked, same⟩ := Session.turnAsked
      (fun _ _ _ fresh asked => Session.yieldsFresh fresh asked) stream
      (Session.startFresh source mode) turn member
    obtain ⟨token, found, kind⟩ := Session.markAsked mark
    rw [found] at asked
    rw [same] at basic
    exact Session.markOpens fresh asked kind basic

theorem twoLooseMarks :
    let turns := (Session.start "x #a#é #1" .basic).turns
    tokenize "x #a#é #1" .basic =
        .ok [⟨.word "x", ⟨0, 1⟩⟩, ⟨.symbol '#', ⟨2, 3⟩⟩, ⟨.word "a", ⟨3, 4⟩⟩, ⟨.symbol '#', ⟨4, 5⟩⟩,
          ⟨.word "é", ⟨5, 7⟩⟩, ⟨.symbol '#', ⟨8, 9⟩⟩, ⟨.number 1, ⟨9, 10⟩⟩, ⟨.eof, ⟨10, 10⟩⟩] ∧
      Session.Turn.looseMarks none turns = 2 ∧
      (Session.start "x #a#é #1" .basic).exhaust.mode = Mode.flipped^[2] .basic ∧
      ∃ run mark, turns[2]? = some run ∧ turns[3]? = some mark ∧
        Session.Turn.glued run mark = true ∧ mark.step.after.mode = .extended := by
  intro turns
  have ok : tokenize "x #a#é #1" .basic =
      .ok [⟨.word "x", ⟨0, 1⟩⟩, ⟨.symbol '#', ⟨2, 3⟩⟩, ⟨.word "a", ⟨3, 4⟩⟩, ⟨.symbol '#', ⟨4, 5⟩⟩,
        ⟨.word "é", ⟨5, 7⟩⟩, ⟨.symbol '#', ⟨8, 9⟩⟩, ⟨.number 1, ⟨9, 10⟩⟩, ⟨.eof, ⟨10, 10⟩⟩] := by
    decide +kernel
  have count : Session.Turn.looseMarks none turns = 2 := by decide +kernel
  obtain ⟨_, _, modes, extends', _⟩ := looseMarksFlip _ _ _ ok
  have pair : (turns[2]?.bind fun run => turns[3]?.map fun mark => Session.Turn.glued run mark) =
      some true := by decide +kernel
  obtain ⟨run, first, pair⟩ := Option.bind_eq_some_iff.mp pair
  obtain ⟨mark, second, glued⟩ := Option.map_eq_some_iff.mp pair
  exact ⟨ok, count, count ▸ modes, run, mark, first, second, glued,
    extends' 2 run mark first second glued⟩

end ModalLexer
