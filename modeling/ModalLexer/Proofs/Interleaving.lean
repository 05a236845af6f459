import Mathlib.Control.Monad.Basic
import ModalLexer.Proofs.Frame
import ModalLexer.Proofs.Stream

/-! Requests and pulls mixed on one session. Both read the one stream of tokens; a session knows of the
end of input by its last token and of the end of pulling by its mark, and the replies so far tell
both. -/
namespace ModalLexer

namespace Reply

def result? : Reply → Option (Except Fault Token)
  | token result => some result
  | pulled result => result
  | modeSet _ => none

def token? (r : Reply) : Option Token := r.result?.bind Except.toOption

def givesEof (r : Reply) : Bool := r.token?.any Token.isEof

def endsPulls : Reply → Bool
  | pulled none => true
  | pulled (some result) => Session.isLast result
  | token _ | modeSet _ => false

theorem resultEof {r : Reply} {result : Except Fault Token} (tells : r.result? = some result) :
    r.givesEof = result.toOption.any Token.isEof := by
  rw [givesEof, token?, tells, Option.bind_some]

end Reply

namespace Session

def replies (s : Session) (calls : List Call) : List Reply := (s.trail calls).map Moment.reply

def given (s : Session) (calls : List Call) : List (Except Fault Token) :=
  (s.replies calls).filterMap Reply.result?

def marked (s : Session) (finished : Bool) : Session := { s with finished := finished }

theorem repliesCons (s : Session) (call : Call) (later : List Call) :
    s.replies (call :: later) = (s.answer call).1 :: (s.answer call).2.replies later := rfl

theorem givenCons (s : Session) (call : Call) (later : List Call) :
    s.given (call :: later) =
      (s.answer call).1.result?.toList ++ (s.answer call).2.given later := by
  rw [given, repliesCons, List.filterMap_cons]
  cases (s.answer call).1.result? <;> rfl

theorem yieldsMarked {s t : Session} {result : Except Fault Token} (asked : s.Yields result t)
    (finished : Bool) : (s.marked finished).Yields result (t.marked finished) := by
  cases asked with
  | exhausted ended => exact .exhausted ended
  | eof going gap => exact .eof going gap
  | token going gap first split rule => exact .token going gap first split rule
  | @fault blanks text snag going gap first split basic obstacle =>
    have asked := @Yields.fault (s.marked finished) _ _ _ going gap first split basic obstacle
    cases snag with
    | danglingEscape before =>
      simp only [reject, past, marked] at asked ⊢
      split at asked <;> simpa [*] using asked
    | escapedLetter | numberOverflow => exact asked

theorem nextMarked (s : Session) (finished : Bool) :
    (s.marked finished).next = (s.next.1, s.next.2.marked finished) :=
  yieldsNext (yieldsMarked s.nextYields finished)

theorem pullAsks {s : Session} (unfinished : s.finished = false) :
    s.answer .pull = (.pulled (some s.next.1), s.next.2.marked (isLast s.next.1)) := by
  rw [answer, pullOpen unfinished]
  rfl

theorem pullClosed {s : Session} (finished : s.finished = true) :
    s.answer .pull = (.pulled none, s) := by
  simp [answer, pull, finished]

theorem givenPrefix {calls : List Call} (plain : ∀ mode, Call.setMode (some mode) ∉ calls)
    (s : Session) (finished : Bool) {n : Nat} (enough : calls.length ≤ n) :
    s.given calls <+: (s.marked finished).given (List.replicate n .next) := by
  induction calls generalizing s finished n with
  | nil => exact List.nil_prefix
  | cons call later ih =>
    have rest : ∀ mode, Call.setMode (some mode) ∉ later := fun mode member =>
      plain mode (List.mem_cons_of_mem _ member)
    have skipped : s.given later <+: (s.marked finished).given (List.replicate n .next) :=
      ih rest s finished (Nat.le_of_succ_le enough)
    have asked (mark : Bool) : s.next.1 :: (s.next.2.marked mark).given later <+:
        (s.marked finished).given (List.replicate n .next) := by
      obtain ⟨more, rfl⟩ := Nat.exists_eq_add_of_lt enough
      rw [List.replicate_succ, givenCons, answer, nextMarked s finished]
      exact List.cons_prefix_cons.mpr
        ⟨rfl, ih rest (s.next.2.marked mark) finished (Nat.le_add_right _ _)⟩
    rw [givenCons]
    cases call with
    | next => exact asked s.next.2.finished
    | pull =>
      cases closed : s.finished with
      | true => rw [pullClosed closed]; exact skipped
      | false => rw [pullAsks closed]; exact asked _
    | setMode mode =>
      cases mode with
      | none => exact skipped
      | some mode => exact absurd List.mem_cons_self (plain mode)

structure History (past : List Reply) (s : Session) : Prop where
  ended : s.ended = past.any Reply.givesEof
  finished : s.finished = past.any Reply.endsPulls
  drained : s.ended = true → s.rest = []
  once : (past.filter Reply.givesEof).length ≤ 1

variable {past : List Reply} {s t : Session} {reply : Reply}

theorem quietHistory (history : History past s) (quiet : reply.givesEof = false)
    (ends : t.ended = s.ended) (drained : s.ended = true → t.rest = [])
    (marks : t.finished = (s.finished || reply.endsPulls)) : History (past ++ [reply]) t := by
  refine ⟨?_, ?_, fun final => drained (ends.symm.trans final), ?_⟩
  · simpa [quiet] using ends.trans history.ended
  · simpa [history.finished] using marks
  · simpa [quiet] using history.once

theorem requestHistory {result : Except Fault Token} (history : History past s)
    (asked : s.Yields result t) (tells : reply.result? = some result) :
    History (past ++ [reply]) (t.marked (s.finished || reply.endsPulls)) := by
  have gives := Reply.resultEof tells
  cases result with
  | ok last =>
    have fresh : past.any Reply.givesEof = false := history.ended.symm.trans (yieldsOpen asked)
    have ends : (t.marked (s.finished || reply.endsPulls)).ended = reply.givesEof := by
      rw [gives, ended, marked, tokenCurrent asked]
      rfl
    refine ⟨?_, ?_, ?_, ?_⟩
    · simpa [fresh] using ends
    · simp [history.finished, marked]
    · intro final
      cases asked with
      | eof => rfl
      | token going gap first split rule =>
        rw [ends, gives] at final
        exact absurd (isEofExact.mp final) (ruleNoEof rule)
    · have none : past.filter Reply.givesEof = [] := by
        simpa [List.filter_eq_nil_iff] using fresh
      rw [List.filter_append, none, List.nil_append]
      exact List.length_filter_le _ _
  | error fault =>
    refine quietHistory history gives ?_ ?_ rfl
    · rw [faultKeeps asked]
      rfl
    · intro final
      cases asked with
      | exhausted => exact history.drained final
      | fault going => rw [going] at final; contradiction

theorem answerHistory (history : History past s) (call : Call) :
    History (past ++ [(s.answer call).1]) (s.answer call).2 := by
  cases call with
  | next =>
    have asked := requestHistory history s.nextYields
      (show (Reply.token s.next.1).result? = some s.next.1 from rfl)
    rw [Reply.endsPulls, Bool.or_false, ← yieldsFinished s.nextYields] at asked
    exact asked
  | pull =>
    cases closed : s.finished with
    | true =>
      rw [pullClosed closed]
      exact quietHistory history rfl rfl history.drained (by simp [closed])
    | false =>
      have asked := requestHistory history s.nextYields
        (show (Reply.pulled (some s.next.1)).result? = some s.next.1 from rfl)
      rw [closed, Bool.false_or] at asked
      rw [pullAsks closed]
      exact asked
  | setMode mode =>
    cases mode with
    | none | some => exact quietHistory history rfl rfl history.drained (Bool.or_false _).symm

theorem startHistory (source : String) (mode : Mode) : History [] (start source mode) :=
  ⟨rfl, rfl, nofun, Nat.zero_le 1⟩

theorem repliesHistory {source : String} {seen later : List Reply} {calls : List Call}
    (reached : Reached source s) (history : History seen s)
    (split : s.replies calls = past ++ reply :: later) :
    ∃ u call, Reached source u ∧ History (seen ++ past) u ∧ reply = (u.answer call).1 := by
  induction past generalizing seen s calls with
  | nil =>
    cases calls with
    | nil => contradiction
    | cons call rest =>
      rw [repliesCons] at split
      exact ⟨s, call, reached, by simpa using history, (List.cons.inj split).1.symm⟩
  | cons first more ih =>
    cases calls with
    | nil => contradiction
    | cons call rest =>
      rw [repliesCons, List.cons_append] at split
      obtain ⟨rfl, tail⟩ := List.cons.inj split
      obtain ⟨u, last, further, told, same⟩ :=
        ih (.call reached call) (answerHistory history call) tail
      exact ⟨u, last, further, by simpa using told, same⟩

structure Orderly (source : String) (past : List Reply) (reply : Reply) : Prop where
  afterEof : (∃ r ∈ past, r.givesEof = true) → reply.token? = none
  exhaustion : (∃ r ∈ past, r.givesEof = true) → ∀ result, reply = .token result →
    result = .error (.exhausted (.between source.utf8ByteSize source.utf8ByteSize))
  exhausted : ∀ fault, reply = .token (.error fault) → fault.cause = .exhausted →
    ∃ r ∈ past, r.givesEof = true
  afterPulls : (∃ r ∈ past, r.endsPulls = true) → ∀ result, reply = .pulled result → result = none
  /-- The one end of input so far was asked for, and no pull has met the end of input before. -/
  pullExhausted : ∀ fault, reply = .pulled (some (.error fault)) → fault.cause = .exhausted →
    (∃ t, past.filter Reply.givesEof = [.token (.ok t)]) ∧
      ∀ other, .pulled (some (.error other)) ∈ past → other.cause ≠ .exhausted

theorem exhaustedEnds {fault : Fault} (asked : s.Yields (.error fault) t)
    (exhausted : fault.cause = .exhausted) : s.ended = true := by
  cases asked with
  | exhausted ended => exact ended
  | fault => exact absurd exhausted (rejectCause _ _).1

theorem nextEnded (ended : s.ended = true) :
    s.next = (.error (.exhausted (.point (clampOffset s.pos))), s) := by
  rw [next, if_pos ended]

theorem endedToken (ended : s.ended = true) (call : Call) : (s.answer call).1.token? = none := by
  cases call with
  | next => rw [answer, nextEnded ended]; rfl
  | pull =>
    cases closed : s.finished with
    | true => rw [pullClosed closed]; rfl
    | false => rw [pullAsks closed, nextEnded ended]; rfl
  | setMode mode => rfl

theorem drainedPlace {source : String} (reached : Reached source s) (drained : s.rest = []) :
    s.pos = source.utf8ByteSize := by
  obtain ⟨passed, whole, place⟩ := reachedPlaced reached
  rw [drained, List.append_nil, reachedSource reached] at whole
  rw [← place, ← whole, utf8SizeToList]

theorem eofAsked (r : Reply) (gives : r.givesEof = true) (going : r.endsPulls = false) :
    ∃ t, r = .token (.ok t) := by
  cases r with
  | token result =>
    cases result with
    | ok t => exact ⟨t, rfl⟩
    | error fault => contradiction
  | pulled result =>
    cases result with
    | none => contradiction
    | some result =>
      cases result with
      | ok t =>
        have final : t.isEof = true := gives
        rw [show t.isEof = false from going] at final
        contradiction
      | error fault => contradiction
  | modeSet => contradiction

theorem answerOrderly {source : String} (reached : Reached source s) (history : History past s)
    (call : Call) : Orderly source past (s.answer call).1 := by
  have eof : (∃ r ∈ past, r.givesEof = true) ↔ s.ended = true := by
    rw [history.ended, List.any_eq_true]
  have closed : (∃ r ∈ past, r.endsPulls = true) ↔ s.finished = true := by
    rw [history.finished, List.any_eq_true]
  refine ⟨fun given => endedToken (eof.mp given) call, ?_, ?_, ?_, ?_⟩
  · intro given result same
    have ended := eof.mp given
    cases call with
    | next =>
      cases same
      rw [nextEnded ended, drainedPlace reached (history.drained ended)]
      rfl
    | pull | setMode => contradiction
  · intro fault same cause
    cases call with
    | next =>
      have failed : s.next.1 = .error fault := Reply.token.inj same
      exact eof.mpr (exhaustedEnds (failed ▸ s.nextYields) cause)
    | pull | setMode => contradiction
  · intro given result same
    cases call with
    | pull =>
      rw [pullClosed (closed.mp given)] at same
      exact (Reply.pulled.inj same).symm
    | next | setMode => contradiction
  · intro fault same cause
    cases call with
    | next | setMode => contradiction
    | pull =>
      cases mark : s.finished with
      | true => rw [pullClosed mark] at same; simp at same
      | false =>
        rw [pullAsks mark] at same
        have failed : s.next.1 = .error fault := Option.some.inj (Reply.pulled.inj same)
        have ended := exhaustedEnds (failed ▸ s.nextYields) cause
        have going : ∀ r ∈ past, r.endsPulls = false := by
          intro r member
          cases ends : r.endsPulls with
          | false => rfl
          | true => rw [closed.mp ⟨r, member, ends⟩] at mark; contradiction
        constructor
        · obtain ⟨r, member, gives⟩ := eof.mpr ended
          obtain ⟨t, rfl⟩ := eofAsked r gives (going r member)
          have kept : .token (.ok t) ∈ past.filter Reply.givesEof :=
            List.mem_filter.mpr ⟨member, gives⟩
          refine ⟨t, ?_⟩
          obtain ⟨first, only⟩ := List.length_eq_one_iff.mp
            (Nat.le_antisymm history.once (List.length_pos_of_mem kept))
          rw [only] at kept ⊢
          rw [List.mem_singleton.mp kept]
        · intro other member
          exact absurd (going _ member) (by simp [Reply.endsPulls, isLast])

/-- Calls in any order, none of which names a mode, give the results that requests alone would give,
one after the other; and every reply fits the replies before it, overrides or not. -/
theorem mixedCallsAgree (source : String) (mode : Mode) (calls : List Call) :
    ((∀ named, Call.setMode (some named) ∉ calls) → ∀ n, calls.length ≤ n →
      (start source mode).given calls <+: (start source mode).given (List.replicate n .next)) ∧
      ∀ past reply later, (start source mode).replies calls = past ++ reply :: later →
        Orderly source past reply := by
  constructor
  · intro plain n enough
    exact givenPrefix plain (start source mode) false enough
  · intro past reply later split
    obtain ⟨s, call, reached, history, rfl⟩ :=
      repliesHistory (.start mode) (startHistory source mode) split
    exact answerOrderly reached history call

theorem pullBehindEof :
    let calls : List Call := [.pull, .setMode none, .next, .next, .pull, .pull, .next]
    let past : List Reply :=
      [.pulled (some (.ok ⟨.word "é", ⟨0, 2⟩⟩)), .modeSet (.error (.missingMode 2)),
        .token (.ok ⟨.symbol '#', ⟨2, 3⟩⟩), .token (.ok ⟨.eof, ⟨3, 3⟩⟩)]
    let reply : Reply := .pulled (some (.error (.exhausted ⟨3, 3⟩)))
    (∀ named, Call.setMode (some named) ∉ calls) ∧
      (start "é#" .basic).given calls <+: (start "é#" .basic).given (List.replicate 7 .next) ∧
      (start "é#" .basic).replies calls =
        past ++ reply :: [.pulled none, .token (.error (.exhausted ⟨3, 3⟩))] ∧
      Orderly "é#" past reply := by
  intro calls past reply
  have plain : ∀ named, Call.setMode (some named) ∉ calls := by simp [calls]
  have split : (start "é#" .basic).replies calls =
      past ++ reply :: [.pulled none, .token (.error (.exhausted ⟨3, 3⟩))] := rfl
  obtain ⟨agree, orderly⟩ := mixedCallsAgree "é#" .basic calls
  exact ⟨plain, agree plain 7 (Nat.le_refl 7), split, orderly past reply _ split⟩

end Session
end ModalLexer
