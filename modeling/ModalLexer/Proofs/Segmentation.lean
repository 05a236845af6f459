import Mathlib
import ModalLexer.Proofs.Offset
import ModalLexer.Proofs.Stream

/-! Segmentations: what a list of tokens says of a source as a whole. The tokens of a source are its
one segmentation. -/
namespace ModalLexer
open Unicode (isBlank)

inductive Walk (source : String) : Mode → List Token → Prop where
  | nil (mode) : Walk source mode []
  | cons {mode t tokens before slice after next} (cut : Cut source t.span before slice after)
      (rule : Rule mode t.kind slice after.head? next) (later : Walk source next tokens) :
      Walk source mode (t :: tokens)

structure Segments (source : String) (floor : Nat) (mode : Mode) (tokens : List Token) : Prop where
  above : ∀ t ∈ tokens, floor ≤ t.span.start
  ordered : tokens.Pairwise fun t later => t.span.stop ≤ later.span.start
  shape : ∀ t ∈ tokens, ∃ before c more after,
    Cut source t.span before (c :: more) after ∧ isBlank c = false
  gaps : ∀ before c after, source.toList = before ++ c :: after → floor ≤ utf8Size before →
    (∀ t ∈ tokens, ¬ (t.span.start ≤ utf8Size before ∧ utf8Size before < t.span.stop)) →
    isBlank c = true
  walk : Walk source mode tokens

def Segmentation (source : String) (mode : Mode) (tokens : List Token) : Prop :=
  ∃ body, tokens = body ++ [⟨.eof, .point source.utf8ByteSize⟩] ∧ (∀ t ∈ body, t.isEof = false) ∧
    Segments source 0 mode body

inductive Chain : Mode → Nat → List Char → List Token → Prop where
  | nil {mode floor text} (gap : ∀ c ∈ text, isBlank c = true) : Chain mode floor text []
  | cons {mode floor text blanks lexeme rest kind next tokens}
      (split : text = blanks ++ (lexeme ++ rest)) (gap : ∀ c ∈ blanks, isBlank c = true)
      (first : ∀ c ∈ lexeme.head?, isBlank c = false)
      (rule : Rule mode kind lexeme rest.head? next)
      (later : Chain next (floor + utf8Size blanks + utf8Size lexeme) rest tokens) :
      Chain mode floor text
        (⟨kind, ⟨floor + utf8Size blanks, floor + utf8Size blanks + utf8Size lexeme⟩⟩ :: tokens)

theorem segmentsNil {source : String} {mode : Mode} {passed text : List Char}
    (whole : source.toList = passed ++ text) :
    Segments source (utf8Size passed) mode [] ↔ ∀ c ∈ text, isBlank c = true := by
  constructor
  · intro segments c member
    obtain ⟨left, right, split⟩ := List.append_of_mem member
    refine segments.gaps (passed ++ left) c right (by rw [whole, split]; simp) ?_ (by simp)
    simp only [utf8SizeAppend]
    omega
  · intro gap
    refine ⟨by simp, by simp, by simp, ?_, .nil mode⟩
    intro before c after split above _
    obtain ⟨skipped, _, rest⟩ := gapBetween (whole.symm.trans split) above
    exact gap c (by rw [rest]; simp)

theorem chainSegments {source : String} {mode : Mode} {floor : Nat} {text : List Char}
    {tokens : List Token} (chain : Chain mode floor text tokens) {passed : List Char}
    (whole : source.toList = passed ++ text) (bytes : utf8Size passed = floor) :
    Segments source floor mode tokens := by
  induction chain generalizing passed with
  | nil gap => exact bytes ▸ (segmentsNil whole).mpr gap
  | @cons mode floor text blanks lexeme rest kind next tokens split gap first rule later ih =>
    have filled := ruleFilled rule
    have long := utf8SizePositive filled
    have cut : Cut source ⟨floor + utf8Size blanks, floor + utf8Size blanks + utf8Size lexeme⟩
        (passed ++ blanks) lexeme rest :=
      ⟨by rw [whole, split, List.append_assoc], by simp [bytes], by simp [bytes]⟩
    have tail : Segments source (floor + utf8Size blanks + utf8Size lexeme) next tokens := by
      apply @ih (passed ++ blanks ++ lexeme)
      · rw [cut.whole, List.append_assoc _ lexeme]
      · simp [bytes, Nat.add_assoc]
    refine ⟨?_, ?_, ?_, ?_, .cons cut rule tail.walk⟩
    · intro t member
      rcases List.mem_cons.mp member with rfl | member
      · exact Nat.le_add_right _ _
      · have above := tail.above t member
        omega
    · exact List.pairwise_cons.mpr ⟨fun t member => tail.above t member, tail.ordered⟩
    · intro t member
      rcases List.mem_cons.mp member with rfl | member
      · obtain ⟨c, more, rfl⟩ := List.exists_cons_of_ne_nil filled
        exact ⟨_, c, more, _, cut, first c rfl⟩
      · exact tail.shape t member
    -- A character outside of every token stands before the first one or among the later ones.
    · intro before c after place above outside
      by_cases early : utf8Size before < floor + utf8Size blanks
      · have earlier : utf8Size passed ≤ utf8Size before := by omega
        obtain ⟨skipped, rfl, here⟩ := gapBetween (whole.symm.trans place) earlier
        rw [split] at here
        have short : utf8Size skipped < utf8Size blanks := by
          simp only [utf8SizeAppend] at early
          omega
        obtain ⟨ahead, inside, cover⟩ := gapBetween here.symm (Nat.le_of_lt short)
        cases ahead with
        | nil =>
          rw [inside, List.append_nil] at short
          exact absurd short (Nat.lt_irrefl _)
        | cons d more =>
          cases cover
          exact gap c (by rw [inside]; simp)
      · have reached : floor + utf8Size blanks + utf8Size lexeme ≤ utf8Size before := by
          have beyond := outside _ List.mem_cons_self
          dsimp only at beyond
          omega
        exact tail.gaps before c after place reached fun t member =>
          outside t (List.mem_cons_of_mem _ member)

theorem segmentsTail {source : String} {floor : Nat} {mode next : Mode} {t : Token}
    {tokens : List Token} (segments : Segments source floor mode (t :: tokens))
    (reached : floor ≤ t.span.stop) (later : Walk source next tokens) :
    Segments source t.span.stop next tokens := by
  obtain ⟨before, ordered⟩ := List.pairwise_cons.mp segments.ordered
  refine ⟨before, ordered, fun u member => segments.shape u (List.mem_cons_of_mem _ member), ?_, later⟩
  intro ahead c after place above outside
  apply segments.gaps ahead c after place (Nat.le_trans reached above)
  intro u member
  rcases List.mem_cons.mp member with rfl | member
  · omega
  · exact outside u member

theorem segmentsGap {source : String} {floor : Nat} {mode : Mode} {t : Token} {tokens : List Token}
    (segments : Segments source floor mode (t :: tokens)) {before after : List Char} {c : Char}
    (place : source.toList = before ++ c :: after) (above : floor ≤ utf8Size before)
    (early : utf8Size before < t.span.start) (long : t.span.start ≤ t.span.stop) :
    isBlank c = true := by
  apply segments.gaps before c after place above
  intro u member
  rcases List.mem_cons.mp member with rfl | member
  · omega
  · have behind := (List.pairwise_cons.mp segments.ordered).1 u member
    omega

theorem segmentsChain {source : String} {mode : Mode} {tokens : List Token} {passed text : List Char}
    (whole : source.toList = passed ++ text)
    (segments : Segments source (utf8Size passed) mode tokens) :
    Chain mode (utf8Size passed) text tokens := by
  induction tokens generalizing mode passed text with
  | nil => exact .nil ((segmentsNil whole).mp segments)
  | cons t tokens ih =>
    cases segments.walk with
    | @cons _ _ _ before slice after next cut rule later =>
      have above : utf8Size passed ≤ utf8Size before := by
        rw [cut.start]
        exact segments.above t List.mem_cons_self
      obtain ⟨blanks, rfl, split⟩ := gapBetween (whole.symm.trans cut.whole) above
      have start := cut.start
      have stop := cut.stop
      have gap : ∀ c ∈ blanks, isBlank c = true := by
        intro c member
        obtain ⟨left, right, rfl⟩ := List.append_of_mem member
        have place : source.toList = (passed ++ left) ++ c :: (right ++ (slice ++ after)) := by
          rw [whole, split]
          simp
        apply segmentsGap segments place
        · simp
        · rw [← start]
          have positive := c.utf8Size_pos
          simp only [utf8SizeAppend, utf8SizeCons]
          omega
        · omega
      have first : ∀ c ∈ slice.head?, isBlank c = false := by
        obtain ⟨left, c, more, right, other, unblank⟩ := segments.shape t List.mem_cons_self
        obtain ⟨_, rfl, _⟩ := cutUnique cut other
        intro x head
        cases head
        exact unblank
      have tail := segmentsTail segments (by omega) later
      rw [← stop, ← utf8SizeAppend] at tail
      have chain := ih (by rw [cut.whole, ← List.append_assoc _ slice]) tail
      simp only [utf8SizeAppend] at start stop chain
      have token : t = ⟨t.kind, ⟨utf8Size passed + utf8Size blanks,
          utf8Size passed + utf8Size blanks + utf8Size slice⟩⟩ := by
        rw [stop, start]
      rw [token]
      exact .cons split gap first rule chain

theorem segmentsExact {source : String} {mode : Mode} {tokens : List Token} :
    Segments source 0 mode tokens ↔ Chain mode 0 source.toList tokens := by
  constructor
  · exact @segmentsChain source mode tokens [] _ rfl
  · intro chain
    exact @chainSegments source mode 0 _ tokens chain [] rfl rfl

namespace Session

theorem streamChain {s : Session} {steps : List Step} {tokens : List Token} (stream : Stream s steps)
    (results : steps.map Step.result = tokens.map .ok) (bounded : s.Bounded) :
    ∃ body, tokens = body ++ [⟨.eof, .point (s.pos + utf8Size s.rest)⟩] ∧
      (∀ t ∈ body, t.isEof = false) ∧ Chain s.mode s.pos s.rest body := by
  induction stream generalizing tokens with
  | @token s t after steps asked more later ih =>
    cases tokens with
    | nil => simp at results
    | cons first others =>
      simp only [List.map_cons, List.cons.injEq, Except.ok.injEq] at results
      obtain ⟨rfl, results⟩ := results
      obtain ⟨body, rfl, unended, chain⟩ := ih results (yieldsBounded asked bounded)
      obtain ⟨blanks, lexeme, rest, split, gap, start, rule, span, same⟩ :=
        yieldsToken asked more bounded
      rw [same] at chain
      refine ⟨t :: body, ?_, by simpa [more] using unended, ?_⟩
      · rw [same, split]
        simp [Nat.add_assoc]
      · have token : t = ⟨t.kind, ⟨s.pos + utf8Size blanks,
            s.pos + utf8Size blanks + utf8Size lexeme⟩⟩ := by rw [← span]
        rw [token]
        exact .cons split gap start rule chain
  | @last s result after asked final =>
    cases tokens with
    | nil => simp at results
    | cons t others =>
      simp only [List.map_cons, List.map_nil, List.cons.injEq] at results
      obtain ⟨rfl, none⟩ := results
      have alone : others = [] := List.map_eq_nil_iff.mp none.symm
      obtain ⟨gap, same, _⟩ := yieldsEof asked final bounded
      exact ⟨[], by rw [alone, same]; rfl, by simp, .nil gap⟩

theorem chainStream {mode : Mode} {floor : Nat} {text : List Char} {body : List Token}
    (chain : Chain mode floor text body) {s : Session} (modes : s.mode = mode) (place : s.pos = floor)
    (front : s.rest = text) (going : s.ended = false) (bounded : s.Bounded) :
    ∃ steps, Stream s steps ∧
      steps.map Step.result =
        (body ++ [Token.mk .eof (.point (floor + utf8Size text))]).map .ok := by
  induction chain generalizing s with
  | @nil mode floor text gap =>
    subst front place
    have asked := Yields.eof going gap
    have exact := (yieldsEof asked rfl bounded).2.1
    refine ⟨_, .last asked rfl, ?_⟩
    simp only [List.map_cons, List.map_nil, List.nil_append, exact]
  | @cons mode floor text blanks lexeme rest kind next tokens split gap first rule later ih =>
    subst front place modes
    obtain ⟨asked, more⟩ := ruleYields going gap first split rule
    have still := yieldsBounded asked bounded
    obtain ⟨steps, stream, results⟩ := ih rfl rfl rfl (yieldsGoing asked more) still
    refine ⟨_, .token asked more stream, ?_⟩
    have span := betweenExact (Nat.le_add_right (s.pos + utf8Size blanks) (utf8Size lexeme)) (by
      simp only [Bounded, split, utf8SizeAppend] at bounded
      omega)
    have total : s.pos + utf8Size blanks + utf8Size lexeme + utf8Size rest =
        s.pos + utf8Size s.rest := by
      rw [split]
      simp [Nat.add_assoc]
    rw [List.map_cons, results, total]
    simp only [span, List.cons_append, List.map_cons]

end Session

theorem tokenizeExact {source : String} (small : source.utf8ByteSize ≤ largestOffset) (mode : Mode)
    (tokens : List Token) : tokenize source mode = .ok tokens ↔ Segmentation source mode tokens := by
  have bounded := Session.startBounded small mode
  have size : (Session.start source mode).pos + utf8Size (Session.start source mode).rest =
      source.utf8ByteSize := by simp [Session.start, utf8SizeToList]
  rw [tokenize, Session.tokensExact]
  constructor
  · intro results
    obtain ⟨body, same, unended, chain⟩ :=
      Session.streamChain (Session.stepsStream rfl) results bounded
    rw [size] at same
    exact ⟨body, same, unended, segmentsExact.mpr chain⟩
  · rintro ⟨body, rfl, unended, segments⟩
    obtain ⟨steps, stream, results⟩ :=
      Session.chainStream (s := .start source mode) (segmentsExact.mp segments) rfl rfl rfl rfl bounded
    rw [Session.streamSteps stream rfl, results, utf8SizeToList, Nat.zero_add]

theorem tokensAreSegmentation (source : String) (mode : Mode)
    (small : source.utf8ByteSize ≤ largestOffset) :
    (∀ tokens, tokenize source mode = .ok tokens ↔ Segmentation source mode tokens) ∧
      ∀ left right, Segmentation source mode left → Segmentation source mode right →
        left = right := by
  refine ⟨tokenizeExact small mode, ?_⟩
  intro left right first second
  have one := (tokenizeExact small mode left).mpr first
  have two := (tokenizeExact small mode right).mpr second
  exact Except.ok.inj (one.symm.trans two)

theorem mixedSegmentation :
    "é\\ 1 #a\tb#7".utf8ByteSize ≤ largestOffset ∧
      Segmentation "é\\ 1 #a\tb#7" .basic
        [⟨.word "é ", ⟨0, 4⟩⟩, ⟨.number 1, ⟨4, 5⟩⟩, ⟨.symbol '#', ⟨6, 7⟩⟩, ⟨.word "a\tb", ⟨7, 10⟩⟩,
          ⟨.symbol '#', ⟨10, 11⟩⟩, ⟨.word "7", ⟨11, 12⟩⟩, ⟨.eof, ⟨12, 12⟩⟩] :=
  ⟨by decide, ((tokensAreSegmentation _ _ (by decide)).1 _).mp (by cbv)⟩

end ModalLexer
