import ModalLexer.Proofs.Account
import ModalLexer.Proofs.Cursor

/-! Respacing: how much blank text stands in a gap, and of what kind, says nothing. A source is read
as before when each gap between its tokens is made one space. -/
namespace ModalLexer
open Unicode (isBlank)

namespace Session.Turn

def respaced? (t : Turn) : Option String :=
  (Text.slice? t.before.source t.start t.stop).map fun text =>
    if t.before.pos < t.start then " " ++ text else text

def trace (t : Turn) : Option Kind × Mode × Option String :=
  (t.kind?, t.step.after.mode, t.respaced?)

end Session.Turn

def respaced? (source : String) (mode : Mode) : Option String :=
  ((Session.start source mode).turns.mapM Session.Turn.respaced?).map String.join

def oneSpace (blanks : List Char) : List Char := if blanks = [] then [] else [' ']

def spaceFor (c : Char) : Char := if isBlank c then ' ' else c

theorem oneSpaceBlank (blanks : List Char) : ∀ c ∈ oneSpace blanks, isBlank c = true := by
  unfold oneSpace
  split <;> simp [blankSpace]

@[simp] theorem oneSpaceTwice (blanks : List Char) :
    oneSpace (oneSpace blanks) = oneSpace blanks := by
  unfold oneSpace
  split <;> rfl

theorem respacedHead {blanks text other : List Char} (gap : ∀ c ∈ blanks, isBlank c = true)
    (first : ∀ c ∈ text.head?, isBlank c = false) (same : other.head? = text.head?) :
    (oneSpace blanks ++ other).head? = (blanks ++ text).head?.map spaceFor := by
  cases blanks with
  | nil =>
    rw [oneSpace, if_pos rfl, List.nil_append, List.nil_append, same]
    cases head : text.head? with
    | none => rfl
    | some c => simp [spaceFor, first c head]
  | cons b more => simp [oneSpace, spaceFor, gap b List.mem_cons_self]

theorem ruleRespaced {mode kind lexeme follow next} (rule : Rule mode kind lexeme follow next) :
    Rule mode kind lexeme (follow.map spaceFor) next := by
  cases follow with
  | none => exact rule
  | some c =>
    rw [Option.map_some, spaceFor]
    split
    · next blank => exact ruleSpaced (by simpa using blank) rule
    · exact rule

namespace Session

theorem turnRespaced {s : Session} {blanks lexeme rest : List Char} (step : Step)
    (placed : s.Placed) (gap : ∀ c ∈ blanks, isBlank c = true)
    (first : ∀ c ∈ (lexeme ++ rest).head?, isBlank c = false)
    (split : s.rest = blanks ++ (lexeme ++ rest))
    (stop : step.after.pos = s.pos + utf8Size blanks + utf8Size lexeme) :
    Turn.respaced? ⟨s, step⟩ = some (String.ofList (oneSpace blanks ++ lexeme)) := by
  have start : Turn.start ⟨s, step⟩ = s.pos + utf8Size blanks := by
    rw [Turn.start, skipBlanksPast split gap first]
    rfl
  have slice : Text.slice? s.source (s.pos + utf8Size blanks) step.after.pos =
      some (String.ofList lexeme) := by
    rw [stop]
    exact sliceAhead (pastPlaced placed split) rfl
  rw [Turn.respaced?, start, Turn.stop, slice, Option.map_some, Option.some_inj]
  cases blanks with
  | nil => simp [oneSpace]
  | cons b more =>
    have skipped : s.pos < s.pos + utf8Size (b :: more) :=
      Nat.lt_add_of_pos_right (utf8SizePositive (by simp))
    rw [if_pos skipped, oneSpace, if_neg (by simp), String.ofList_append]

structure Echo (text : List Char) (s o : Session) : Prop where
  placed : o.Placed
  mode : o.mode = s.mode
  going : o.ended = false
  front : o.rest = text

theorem tokenRespaced {s after : Session} {t : Token} (asked : s.Yields (.ok t) after)
    (more : t.isEof = false) (placed : s.Placed) :
    ∃ part, Turn.respaced? ⟨s, ⟨.ok t, after⟩⟩ = some (String.ofList part) ∧
      ∀ tail, tail.head? = after.rest.head?.map spaceFor →
        (part ++ tail).head? = s.rest.head?.map spaceFor ∧
        ∀ o, Echo (part ++ tail) s o → ∃ other next, o.Yields (.ok other) next ∧
          other.isEof = false ∧ Echo tail after next ∧
          Turn.trace ⟨o, ⟨.ok other, next⟩⟩ = Turn.trace ⟨s, ⟨.ok t, after⟩⟩ := by
  obtain ⟨blanks, lexeme, split, gap, first, rule, _, same⟩ := yieldsRule asked more
  have filled := ruleFilled rule
  have solid (rest : List Char) : ∀ c ∈ (lexeme ++ rest).head?, isBlank c = false := by
    rwa [headOfAppend filled]
  have respaced := turnRespaced ⟨.ok t, after⟩ placed gap (solid _) split (by rw [same])
  refine ⟨oneSpace blanks ++ lexeme, respaced, ?_⟩
  intro tail follows
  constructor
  · rw [List.append_assoc, split]
    exact respacedHead gap (solid _) (by rw [headOfAppend filled, headOfAppend filled])
  · intro o echo
    have front := echo.front
    rw [List.append_assoc] at front
    have allowed := ruleRespaced rule
    rw [← follows, ← echo.mode] at allowed
    obtain ⟨other, next, read, unended, kind, mode, further, stop⟩ :
        ∃ other next, o.Yields (.ok other) next ∧ other.isEof = false ∧ other.kind = t.kind ∧
          next.mode = after.mode ∧ next.rest = tail ∧
          next.pos = o.pos + utf8Size (oneSpace blanks) + utf8Size lexeme :=
      have ⟨read, unended⟩ := ruleYields echo.going (oneSpaceBlank blanks) first front allowed
      ⟨_, _, read, unended, rfl, rfl, rfl, rfl⟩
    have echoed : Echo tail after next :=
      ⟨yieldsPlaced read echo.placed, mode, yieldsGoing read unended, further⟩
    have again := turnRespaced ⟨.ok other, next⟩ echo.placed (oneSpaceBlank blanks) (solid tail)
      front stop
    refine ⟨other, next, read, unended, echoed, ?_⟩
    simp only [Turn.trace, Turn.kind?, again, respaced, oneSpaceTwice, kind, mode]

theorem eofRespaced {s after : Session} {t : Token} (asked : s.Yields (.ok t) after)
    (final : t.isEof = true) (placed : s.Placed) :
    ∃ part, Turn.respaced? ⟨s, ⟨.ok t, after⟩⟩ = some (String.ofList part) ∧
      part.head? = s.rest.head?.map spaceFor ∧
      ∀ o, Echo part s o → ∃ other next, o.Yields (.ok other) next ∧ other.isEof = true ∧
        Turn.trace ⟨o, ⟨.ok other, next⟩⟩ = Turn.trace ⟨s, ⟨.ok t, after⟩⟩ := by
  obtain ⟨gap, token, same⟩ := yieldsEnd asked final
  have alone (text : List Char) : text = text ++ ([] ++ []) := by simp
  have respaced := turnRespaced ⟨.ok t, after⟩ placed gap (by simp) (alone s.rest) (by rw [same]; rfl)
  rw [List.append_nil] at respaced
  refine ⟨oneSpace s.rest, respaced, ?_, ?_⟩
  · have head := @respacedHead s.rest [] [] gap (by simp) rfl
    rwa [List.append_nil, List.append_nil] at head
  · intro o echo
    have blank : ∀ c ∈ o.rest, isBlank c = true := by
      rw [echo.front]
      exact oneSpaceBlank s.rest
    obtain ⟨other, next, read, unended, kind, mode, stop⟩ :
        ∃ other next, o.Yields (.ok other) next ∧ other.isEof = true ∧ other.kind = .eof ∧
          next.mode = o.mode ∧ next.pos = o.pos + utf8Size o.rest + utf8Size [] :=
      ⟨_, _, .eof echo.going blank, rfl, rfl, rfl, rfl⟩
    have again := turnRespaced ⟨.ok other, next⟩ echo.placed blank (by simp) (alone o.rest) stop
    rw [List.append_nil, echo.front, oneSpaceTwice] at again
    have stays : next.mode = after.mode := by rw [mode, echo.mode, same]
    refine ⟨other, next, read, unended, ?_⟩
    simp only [Turn.trace, Turn.kind?, again, respaced, kind, isEofExact.mp final, stays]

/- By induction on the stream: the parts of a reading, put together, are read like the source. -/
theorem streamRespaced {s : Session} {steps : List Step} (stream : Stream s steps)
    {tokens : List Token} (results : steps.map Step.result = tokens.map .ok) (placed : s.Placed) :
    ∃ parts : List (List Char),
      (turnsFrom s steps).mapM Turn.respaced? = some (parts.map String.ofList) ∧
      parts.flatten.head? = s.rest.head?.map spaceFor ∧
      ∀ o, Echo parts.flatten s o → ∃ others, Stream o others ∧
        (turnsFrom o others).map Turn.trace = (turnsFrom s steps).map Turn.trace := by
  induction stream generalizing tokens with
  | @token s t after steps asked more later ih =>
    cases tokens with
    | nil => simp at results
    | cons first tokens =>
      simp only [List.map_cons, List.cons.injEq] at results
      obtain ⟨part, text, reads⟩ := tokenRespaced asked more placed
      obtain ⟨parts, texts, front, runs⟩ := ih results.2 (yieldsPlaced asked placed)
      obtain ⟨head, echoes⟩ := reads parts.flatten front
      refine ⟨part :: parts, ?_, head, ?_⟩
      · rw [turnsFrom, List.mapM_cons, text, texts]
        rfl
      · intro o echo
        obtain ⟨other, next, read, unended, further, trace⟩ := echoes o echo
        obtain ⟨others, stream, traces⟩ := runs next further
        exact ⟨_, .token read unended stream, by simp only [turnsFrom, List.map_cons, trace, traces]⟩
  | @last s result after asked final =>
    cases tokens with
    | nil => simp at results
    | cons t tokens =>
      simp only [List.map_cons, List.map_nil, List.cons.injEq] at results
      obtain ⟨rfl, _⟩ := results
      obtain ⟨part, text, head, echoes⟩ := eofRespaced asked final placed
      refine ⟨[part], ?_, by simpa using head, ?_⟩
      · rw [turnsFrom, turnsFrom, List.mapM_cons]
        rw [show Turn.respaced? ⟨s, ⟨.ok t, { after with finished := true }⟩⟩ = _ from text]
        rfl
      · intro o echo
        rw [List.flatten_singleton] at echo
        obtain ⟨other, next, read, ended, trace⟩ := echoes o echo
        exact ⟨_, .last read ended, congrArg (fun trace => [trace]) trace⟩

theorem traceAlike {α : Type} (part : Option Kind × Mode × Option String → α)
    {turns others : List Turn} (traces : others.map Turn.trace = turns.map Turn.trace) :
    (others.map fun t => part t.trace) = turns.map fun t => part t.trace := by
  have parts := congrArg (List.map part) traces
  rwa [List.map_map, List.map_map] at parts

theorem kindsResults {turns : List Turn} {kinds : List Kind}
    (same : turns.map Turn.kind? = kinds.map some) :
    ∃ tokens : List Token, turns.map (fun t => t.step.result) = tokens.map .ok ∧
      tokens.map Token.kind = kinds := by
  induction turns generalizing kinds with
  | nil =>
    obtain rfl : kinds = [] := List.map_eq_nil_iff.mp same.symm
    exact ⟨[], rfl, rfl⟩
  | cons turn turns ih =>
    cases kinds with
    | nil => simp at same
    | cons kind kinds =>
      simp only [List.map_cons, List.cons.injEq] at same
      obtain ⟨tokens, results, rest⟩ := ih same.2
      cases found : turn.step.result with
      | error fault => simp [Turn.kind?, found] at same
      | ok t =>
        have first : t.kind = kind := by simpa [Turn.kind?, found] using same.1
        exact ⟨t :: tokens, by simp [found, results], by simp [first, rest]⟩

theorem resultsKinds {turns : List Turn} {tokens : List Token}
    (results : turns.map (fun t => t.step.result) = tokens.map .ok) :
    turns.map Turn.kind? = (tokens.map Token.kind).map some := by
  induction turns generalizing tokens with
  | nil =>
    obtain rfl : tokens = [] := List.map_eq_nil_iff.mp results.symm
    rfl
  | cons turn turns ih =>
    cases tokens with
    | nil => simp at results
    | cons t tokens =>
      simp only [List.map_cons, List.cons.injEq] at results
      simp [Turn.kind?, results.1, ih results.2]

end Session

/-- A source that can be read is read alike with one space for each of its gaps: the tokens mean the
same, each leaves the same mode, and there is nothing left to respace. Up to 4 GiB the spans of the
tokens tell the gaps. -/
theorem gapsReadAlike (source : String) (mode : Mode) (tokens : List Token)
    (ok : tokenize source mode = .ok tokens) :
    let turns := (Session.start source mode).turns
    turns.map (fun t => t.step.result) = tokens.map .ok ∧
      (source.utf8ByteSize ≤ largestOffset → ∀ turn ∈ turns, ∀ t, turn.step.result = .ok t →
        t.span = ⟨turn.start, turn.stop⟩) ∧
      ∃ text, respaced? source mode = some text ∧
        (∃ again, tokenize text mode = .ok again ∧
          again.map Token.kind = tokens.map Token.kind) ∧
        (Session.start text mode).steps.map (fun step => step.after.mode) =
          (Session.start source mode).steps.map (fun step => step.after.mode) ∧
        respaced? text mode = some text := by
  have stream := Session.stepsStream (s := .start source mode) rfl
  have results := (Session.turnsResults (.start source mode) _).trans (Session.tokensExact.mp ok)
  intro turns
  refine ⟨results, fun small => Session.turnSpan stream (Session.startBounded small mode), ?_⟩
  obtain ⟨parts, texts, _, runs⟩ :=
    Session.streamRespaced stream (Session.tokensExact.mp ok) (Session.startPlaced source mode)
  have joined : (some (parts.map String.ofList)).map String.join =
      some (String.ofList parts.flatten) := by
    rw [Option.map_some, String.join_eq, List.map_map]
    simp [Function.comp_def]
  obtain ⟨others, again, traces⟩ := runs (.start (String.ofList parts.flatten) mode)
    ⟨Session.startPlaced _ mode, rfl, rfl, String.toList_ofList⟩
  have same := Session.streamSteps again rfl
  refine ⟨String.ofList parts.flatten, by rw [respaced?, Session.turns, texts, joined], ?_, ?_, ?_⟩
  · have kinds := (Session.traceAlike Prod.fst traces).trans (Session.resultsKinds results)
    obtain ⟨tokens', read, alike⟩ := Session.kindsResults kinds
    refine ⟨tokens', Session.tokensExact.mpr ?_, alike⟩
    rw [same, ← Session.turnsResults, read]
  · have modes := Session.traceAlike (fun trace => trace.2.1) traces
    rw [same, ← Session.turnsSteps _ others, ← Session.turnsSteps _ (Session.start source mode).steps,
      List.map_map, List.map_map]
    exact modes
  · have whole := congrArg (List.mapM id) (Session.traceAlike (fun trace => trace.2.2) traces)
    rw [List.mapM_map, List.mapM_map] at whole
    rw [respaced?, Session.turns, same, ← joined, ← texts]
    exact congrArg (Option.map String.join) whole

theorem mixedGapsRespaced :
    let source := "\té\\\n\u00a0 .5#\n a\tb  c#7 \r\n"
    ∃ tokens, tokenize source .basic = .ok tokens ∧
      tokens.map Token.kind = [.word "é\n", .symbol '.', .number 5, .symbol '#', .word "a\tb",
        .word "c", .symbol '#', .word "7", .eof] ∧
      ∃ text, respaced? source .basic = some text ∧ text = " é\\\n .5# a\tb c#7 " ∧
        (∃ again, tokenize text .basic = .ok again ∧
          again.map Token.kind = tokens.map Token.kind) ∧
        (Session.start text .basic).steps.map (fun step => step.after.mode) =
          (Session.start source .basic).steps.map (fun step => step.after.mode) ∧
        respaced? text .basic = some text := by
  intro source
  have ok : tokenize source .basic = .ok [⟨.word "é\n", ⟨1, 5⟩⟩, ⟨.symbol '.', ⟨8, 9⟩⟩,
      ⟨.number 5, ⟨9, 10⟩⟩, ⟨.symbol '#', ⟨10, 11⟩⟩, ⟨.word "a\tb", ⟨13, 16⟩⟩,
      ⟨.word "c", ⟨18, 19⟩⟩, ⟨.symbol '#', ⟨19, 20⟩⟩, ⟨.word "7", ⟨20, 21⟩⟩, ⟨.eof, ⟨24, 24⟩⟩] := by
    decide +kernel
  obtain ⟨_, _, text, respaced, alike⟩ := gapsReadAlike source .basic _ ok
  have shown : respaced? source .basic = some " é\\\n .5# a\tb c#7 " := by decide +kernel
  exact ⟨_, ok, rfl, text, respaced, Option.some.inj (respaced.symm.trans shown), alike⟩

end ModalLexer
