import ModalLexer.Proofs.Join
import ModalLexer.Proofs.Offset
import ModalLexer.Proofs.Spelling

/-! Repairs: the advice that comes with a fault of an escape, when it is taken. The text is changed
from the fault on, and the tokens before it are read as they were. -/
namespace ModalLexer
open Unicode (isBlank isLetter)

theorem ruleBeforeWord {mode kind lexeme c next follow}
    (opens : isLetter c = true ∨ c = escapeMark)
    (also : ∀ d ∈ follow, isLetter d = true ∨ d = escapeMark)
    (rule : Rule mode kind lexeme (some c) next) : Rule mode kind lexeme follow next := by
  cases rule with
  | mark => exact .mark mode follow
  | run filled inside stop =>
    have other : c ≠ ' ' ∧ c ≠ switchMark := by
      rcases opens with letter | rfl
      · exact ⟨fun space => absurd (space ▸ letter) (by decide +kernel), letterNoMark letter⟩
      · decide
    exact absurd (stop c rfl) (by simp [other])
  | word filled proper stop =>
    obtain ⟨noLetter, noEscape⟩ := stop c rfl
    exact absurd opens (by simp [noLetter, noEscape])
  | number filled inside stop fits =>
    refine .number filled inside ?_ fits
    intro d head
    rcases also d head with letter | rfl
    · have above := letterAbove letter
      constructor
      · rw [← Bool.not_eq_true]
        intro digit
        have below := digitBelow digit
        omega
      · rintro rfl
        exact absurd above (by decide)
    · decide
  | symbol noLetter noDigit noEscape noMark => exact .symbol noLetter noDigit noEscape noMark

namespace Glyph

theorem takeOntoAhead (taken : List Glyph) (text : List Char) :
    ∃ others left, takeOnto taken text = (taken.reverse ++ others, left) := by
  fun_induction takeOnto taken text with
  | case1 | case2 | case3 | case6 => exact ⟨[], _, by rw [List.append_nil]⟩
  | case4 taken e after noLetter ih =>
    obtain ⟨others, left, same⟩ := ih
    exact ⟨escaped e :: others, left, by simp [same]⟩
  | case5 taken c rest noEscape letter ih =>
    obtain ⟨others, left, same⟩ := ih
    exact ⟨.letter c :: others, left, by simp [same]⟩

theorem takeAllAhead {glyphs : List Glyph} (proper : ∀ g ∈ glyphs, Proper g) (rest : List Char) :
    ∃ others left, takeAll (lexeme glyphs ++ rest) = (glyphs ++ others, left) := by
  obtain ⟨others, left, same⟩ := takeOntoAhead (glyphs.reverse ++ []) rest
  rw [List.append_nil, List.reverse_reverse] at same
  exact ⟨others, left, by rw [takeAll, takeOntoLexemes proper, List.append_nil, same]⟩

end Glyph

def Snag.lead : Snag → List Char
  | danglingEscape before | escapedLetter before _ _ => before
  | numberOverflow _ _ => []

theorem Piece.closeWordSnag {glyphs : List Glyph} {rest : List Char} {snag : Snag}
    (failed : closeWord glyphs rest = .error snag) : snag.lead = Glyph.lexeme glyphs := by
  unfold closeWord at failed
  dsimp only at failed
  split at failed
  · contradiction
  · split at failed
    · split at failed <;> cases failed <;> rfl
    · contradiction

theorem Piece.readGlyphs {glyphs : List Glyph} (proper : ∀ g ∈ glyphs, g.Proper)
    (filled : glyphs ≠ []) (more : List Char) :
    ∃ others left, read .basic (Glyph.lexeme glyphs ++ more) = closeWord (glyphs ++ others) left := by
  obtain ⟨c, behind, text, starts⟩ := Glyph.lexemeStarts proper filled more
  obtain ⟨others, left, taken⟩ := Glyph.takeAllAhead proper more
  exact ⟨others, left, by rw [text, readWord starts, ← text, word, taken]⟩

namespace Session

variable {s t u after : Session} {tokens : List Token} {tail other : List Char}

theorem rejectStart (s : Session) (snag : Snag) :
    (s.reject snag).1.span.start = clampOffset (s.pos + utf8Size snag.lead) := by
  cases snag with
  | danglingEscape before =>
    rw [danglingSpan]
    rfl
  | escapedLetter => rfl
  | numberOverflow => rfl

theorem leadTaken (lead : Lead s tokens u) :
    ∃ taken, s.rest = taken ++ u.rest ∧ u.pos = s.pos + utf8Size taken := by
  induction lead with
  | nil => exact ⟨[], rfl, rfl⟩
  | cons asked _ _ ih =>
    obtain ⟨_, first, front, place⟩ := yieldsTaken asked
    obtain ⟨later, behind, further⟩ := ih
    exact ⟨first ++ later, by rw [front, behind, List.append_assoc],
      by rw [further, place, utf8SizeAppend, Nat.add_assoc]⟩

theorem leadConcat {more : List Token} {v : Session} (lead : Lead s tokens u)
    (later : Lead u more v) : Lead s (tokens ++ more) v := by
  induction lead with
  | nil => exact later
  | cons asked unended _ ih => exact .cons asked unended (ih later)

structure Edited (tail other : List Char) (s t : Session) : Prop where
  front : ∃ front, s.rest = front ++ tail ∧ t.rest = front ++ other
  place : t.pos = s.pos
  mode : t.mode = s.mode
  going : t.ended = false

/- A token in front of the change is read again. Only if nothing stands between has the rule of the
token to be looked at, since it tells of the character after it. -/
theorem tokenEdited {token : Token} (asked : s.Yields (.ok token) after)
    (more : token.isEof = false) (edited : Edited tail other s t)
    (ahead : ∃ front, after.rest = front ++ tail)
    (opens : ∃ c ∈ tail.head?, isLetter c = true ∨ c = escapeMark)
    (also : ∀ d ∈ other.head?, isLetter d = true ∨ d = escapeMark) :
    ∃ next, t.Yields (.ok token) next ∧ Edited tail other after next := by
  obtain ⟨blanks, lexeme, split, gap, first, rule, span, same⟩ := yieldsRule asked more
  obtain ⟨front, before, now⟩ := edited.front
  obtain ⟨between, rest⟩ := ahead
  rw [split, rest, ← List.append_assoc, ← List.append_assoc] at before
  have kept := List.append_cancel_right before
  have text : t.rest = blanks ++ (lexeme ++ (between ++ other)) := by
    rw [now, ← kept, List.append_assoc, List.append_assoc]
  have allowed : Rule t.mode token.kind lexeme (between ++ other).head? after.mode := by
    rw [edited.mode]
    cases between with
    | nil =>
      obtain ⟨c, head, word⟩ := opens
      rw [rest, List.nil_append, Option.mem_def.mp head] at rule
      exact ruleBeforeWord word also rule
    | cons c later =>
      rw [rest] at rule
      exact rule
  obtain ⟨read, unended⟩ := ruleYields edited.going gap first text allowed
  rw [edited.place, ← span] at read
  refine ⟨_, read, ⟨between, rest, rfl⟩, ?_, rfl, unended⟩
  rw [same]

theorem leadEdited (lead : Lead s tokens u) (edited : Edited tail other s t)
    (ahead : ∃ front, u.rest = front ++ tail)
    (opens : ∃ c ∈ tail.head?, isLetter c = true ∨ c = escapeMark)
    (also : ∀ d ∈ other.head?, isLetter d = true ∨ d = escapeMark) :
    ∃ v, Lead t tokens v ∧ Edited tail other u v := by
  induction lead generalizing t with
  | nil => exact ⟨t, .nil t, edited⟩
  | cons asked more later ih =>
    obtain ⟨taken, behind, _⟩ := leadTaken later
    obtain ⟨front, rest⟩ := ahead
    obtain ⟨next, read, state⟩ := tokenEdited asked more edited
      ⟨taken ++ front, by rw [behind, rest, List.append_assoc]⟩ opens also
    obtain ⟨v, others, last⟩ := ih state ⟨front, rest⟩
    exact ⟨v, .cons read more others, last⟩

structure Stuck (u : Session) (fault : Fault) (blanks : List Char) (glyphs : List Glyph)
    (rest : List Char) : Prop where
  split : u.rest = blanks ++ (Glyph.lexeme glyphs ++ escapeMark :: rest)
  gap : ∀ c ∈ blanks, isBlank c = true
  proper : ∀ g ∈ glyphs, g.Proper
  basic : u.mode = .basic
  slash : fault.span.start = clampOffset (u.pos + utf8Size blanks + utf8Size (Glyph.lexeme glyphs))

theorem danglingStuck {fault : Fault} (asked : u.Yields (.error fault) after)
    (cause : fault.cause = .danglingEscape) :
    ∃ blanks glyphs, Stuck u fault blanks glyphs [] := by
  cases asked with
  | exhausted => contradiction
  | @fault blanks text snag _ gap first split basic obstacle =>
    cases obstacle with
    | @dangling glyphs proper =>
      exact ⟨blanks, glyphs, split, gap, proper, basic, rejectStart _ _⟩
    | letter | overflow => contradiction

theorem letterStuck {fault : Fault} {letter : Char} (asked : u.Yields (.error fault) after)
    (cause : fault.cause = .escapedLetter letter) :
    isLetter letter = true ∧
      ∃ blanks glyphs rest, Stuck u fault blanks glyphs (letter :: rest) := by
  cases asked with
  | exhausted => contradiction
  | @fault blanks text snag _ gap first split basic obstacle =>
    cases obstacle with
    | @dangling glyphs proper =>
      simp only [reject] at cause
      split at cause <;> contradiction
    | @letter glyphs other rest proper escaped =>
      cases cause
      exact ⟨escaped, blanks, glyphs, rest, split, gap, proper, basic, rejectStart _ _⟩
    | overflow => contradiction

theorem faultAbove {fault : Fault} (asked : u.Yields (.error fault) after) :
    clampOffset u.pos ≤ fault.span.start := by
  cases asked with
  | exhausted => exact Nat.le_refl _
  | fault =>
    rw [rejectStart]
    exact clampMono (Nat.le_trans (Nat.le_add_right _ _) (Nat.le_add_right _ _))

theorem leadRepaired {source repaired : String} {mode : Mode} {fault : Fault}
    {passed blanks rest : List Char} {glyphs : List Glyph}
    (lead : Lead (start source mode) tokens u) (stuck : Stuck u fault blanks glyphs rest)
    (whole : source.toList = passed ++ u.rest) (text : repaired.toList = passed ++ (blanks ++ other))
    (also : ∀ d ∈ other.head?, isLetter d = true ∨ d = escapeMark) :
    ∃ v, Lead (start repaired mode) tokens v ∧ v.rest = blanks ++ other ∧ v.pos = u.pos ∧
      v.mode = .basic ∧ v.ended = false := by
  obtain ⟨c, more, word, opens⟩ := Piece.obstacleStarts stuck.proper rest
  have edited : Edited (Glyph.lexeme glyphs ++ escapeMark :: rest) other (start source mode)
      (start repaired mode) := by
    refine ⟨⟨passed ++ blanks, ?_, ?_⟩, rfl, rfl, rfl⟩
    · rw [start, whole, stuck.split, List.append_assoc]
    · rw [start, text, List.append_assoc]
  obtain ⟨v, others, state⟩ := leadEdited lead edited ⟨blanks, stuck.split⟩
    ⟨c, by rw [word]; rfl, opens⟩ also
  obtain ⟨front, before, now⟩ := state.front
  rw [stuck.split] at before
  rw [← List.append_cancel_right before] at now
  exact ⟨v, others, now, state.place, state.mode.trans stuck.basic, state.going⟩

theorem glyphsLead {blanks : List Char} {glyphs : List Glyph} (going : s.ended = false)
    (basic : s.mode = .basic) (gap : ∀ c ∈ blanks, isBlank c = true)
    (proper : ∀ g ∈ glyphs, g.Proper) (split : s.rest = blanks ++ Glyph.lexeme glyphs) :
    ∃ word u, Lead s word u ∧ (∀ c ∈ u.rest, isBlank c = true) ∧
      word.map Token.kind =
        if glyphs = [] then [] else [.word (String.ofList (glyphs.map Glyph.char))] := by
  by_cases filled : glyphs = []
  · subst filled
    refine ⟨[], s, .nil s, ?_, rfl⟩
    rw [split]
    simpa [Glyph.lexeme] using gap
  · have rule : Rule s.mode (.word (String.ofList (glyphs.map Glyph.char))) (Glyph.lexeme glyphs)
        ([] : List Char).head? .basic := by
      rw [basic]
      exact .word filled proper (by simp)
    obtain ⟨asked, more⟩ :=
      ruleYields going gap (Glyph.lexemeUnblank proper) (by simpa using split) rule
    exact ⟨_, _, .cons asked more (.nil _), by simp, by simp [filled]⟩

theorem closedPassed {result : Except Fault Token} {glyphs : List Glyph} {left : List Char}
    (reading : (result, after) = u.read)
    (closed : Piece.read u.mode u.rest = Piece.closeWord glyphs left) :
    let stop := u.pos + utf8Size (Glyph.lexeme glyphs)
    (∀ token, result = .ok token → after.pos = stop) ∧
      ∀ fault, result = .error fault → fault.span.start = clampOffset stop := by
  rw [read, closed] at reading
  cases ends : Piece.closeWord glyphs left with
  | ok p =>
    rw [ends] at reading
    have given : result = .ok (u.accept p).1 := congrArg Prod.fst reading
    have state : after.pos = u.pos + utf8Size p.lexeme := congrArg (fun r => r.2.pos) reading
    constructor
    · intro token _
      rw [state, (Piece.closeWordParts ends).1]
    · intro fault failed
      rw [given] at failed
      contradiction
  | error snag =>
    rw [ends] at reading
    have given : result = .error (u.reject snag).1 := congrArg Prod.fst reading
    constructor
    · intro token read
      rw [given] at read
      contradiction
    · intro fault failed
      rw [given] at failed
      rw [← Except.error.inj failed, rejectStart, Piece.closeWordSnag ends]

theorem glyphsPassed {blanks more : List Char} {glyphs : List Glyph}
    {result : Except Fault Token} (asked : s.Yields result after) (going : s.ended = false)
    (basic : s.mode = .basic) (gap : ∀ c ∈ blanks, isBlank c = true)
    (proper : ∀ g ∈ glyphs, g.Proper) (filled : glyphs ≠ [])
    (split : s.rest = blanks ++ (Glyph.lexeme glyphs ++ more)) :
    let stop := s.pos + utf8Size blanks + utf8Size (Glyph.lexeme glyphs)
    (∀ token, result = .ok token → stop ≤ after.pos) ∧
      ∀ fault, result = .error fault → clampOffset stop ≤ fault.span.start := by
  intro stop
  have first : ∀ c ∈ (Glyph.lexeme glyphs ++ more).head?, isBlank c = false := by
    rw [headOfAppend fun bare => filled (Glyph.lexemeEmpty bare)]
    exact Glyph.lexemeUnblank proper
  obtain ⟨others, left, word⟩ := Piece.readGlyphs proper filled more
  have reading := (yieldsNext asked).symm.trans (nextPast going split gap first)
  rw [← basic] at word
  obtain ⟨passed, told⟩ := closedPassed reading word
  have longer : stop ≤ s.pos + utf8Size blanks + utf8Size (Glyph.lexeme (glyphs ++ others)) := by
    rw [Glyph.lexemeAppend, utf8SizeAppend]
    omega
  constructor
  · intro token read
    rw [passed token read]
    exact longer
  · intro fault failed
    rw [told fault failed]
    exact clampMono longer

theorem glyphsMended {source repaired : String} {mode : Mode} {fault : Fault}
    {passed blanks rest : List Char} {glyphs others : List Glyph}
    (lead : Lead (start source mode) tokens u) (stuck : Stuck u fault blanks glyphs rest)
    (whole : source.toList = passed ++ u.rest) (proper : ∀ g ∈ others, g.Proper)
    (text : repaired.toList = passed ++ (blanks ++ Glyph.lexeme others)) :
    ∃ word final, tokenize repaired mode = .ok (tokens ++ word ++ [final]) ∧
      final.isEof = true ∧ word.map Token.kind =
        if others = [] then [] else [.word (String.ofList (others.map Glyph.char))] := by
  have opens : ∀ d ∈ (Glyph.lexeme others).head?, isLetter d = true ∨ d = escapeMark := by
    intro d head
    cases others with
    | nil => contradiction
    | cons g more =>
      obtain ⟨c, tail, front, starts⟩ := Glyph.lexemeStarts proper (List.cons_ne_nil g more) []
      rw [List.append_nil] at front
      rw [front] at head
      cases head
      exact starts
  obtain ⟨v, again, front, _, basic, going⟩ := leadRepaired lead stuck whole text opens
  obtain ⟨word, w, last, gap, kinds⟩ := glyphsLead going basic stuck.gap proper front
  exact ⟨word, _, (leadEof (leadConcat again last) rfl rfl gap).1, rfl, kinds⟩

theorem faultBehind {fault : Fault} (results : s.results = tokens.map .ok ++ t.results)
    (failed : s.tokens = .error fault) : t.tokens = .error fault := by
  unfold Session.tokens at failed ⊢
  rw [results, allOnto] at failed
  cases read : t.results.mapM id with
  | ok all =>
    rw [read] at failed
    contradiction
  | error first =>
    rw [read] at failed
    exact failed

theorem letterMended {source repaired : String} {mode : Mode} {fault : Fault} {letter : Char}
    {passed blanks rest : List Char} {glyphs : List Glyph}
    (lead : Lead (start source mode) tokens u)
    (stuck : Stuck u fault blanks glyphs (letter :: rest)) (escaped : isLetter letter = true)
    (whole : source.toList = passed ++ u.rest)
    (text : repaired.toList = passed ++ (blanks ++ (Glyph.lexeme glyphs ++ letter :: rest))) :
    tokens.map .ok <+: (start repaired mode).results ∧
      ∀ other, tokenize repaired mode = .error other →
        clampOffset (u.pos + utf8Size blanks + utf8Size (Glyph.lexeme glyphs) + letter.utf8Size) ≤
          other.span.start := by
  have proper : ∀ g ∈ glyphs ++ [.letter letter], g.Proper :=
    List.forall_mem_append.mpr ⟨stuck.proper, List.forall_mem_singleton.mpr escaped⟩
  have spelled : Glyph.lexeme glyphs ++ letter :: rest =
      Glyph.lexeme (glyphs ++ [.letter letter]) ++ rest := by
    rw [Glyph.lexemeAppend, List.append_assoc]
    rfl
  rw [spelled] at text
  obtain ⟨c, tail, front, starts⟩ := Glyph.lexemeStarts proper (by simp) rest
  obtain ⟨v, again, split, place, basic, going⟩ := leadRepaired lead stuck whole text (by
    rw [front]
    rintro d ⟨⟩
    exact starts)
  obtain ⟨unfinished, results⟩ := leadResults again rfl
  refine ⟨results ▸ List.prefix_append _ _, ?_⟩
  intro other failed
  have later : v.tokens = .error other := faultBehind results failed
  obtain ⟨more, w, after, further, asked⟩ := faultLead unfinished later
  have size : utf8Size (Glyph.lexeme (glyphs ++ [.letter letter])) =
      utf8Size (Glyph.lexeme glyphs) + letter.utf8Size := by
    rw [Glyph.lexemeAppend, utf8SizeAppend, Glyph.lexemeSingle, Glyph.spelling, utf8SizeCons,
      utf8SizeNil, Nat.add_zero]
  rw [← place, Nat.add_assoc, ← size]
  cases further with
  | nil => exact (glyphsPassed asked going basic stuck.gap proper (by simp) split).2 other rfl
  | cons first unended others =>
    have passed := (glyphsPassed first going basic stuck.gap proper (by simp) split).1 _ rfl
    obtain ⟨taken, _, ahead⟩ := leadTaken others
    exact Nat.le_trans (clampMono (by omega)) (faultAbove asked)

end Session

/-- The advice for escapes mends a text. Where a backslash ends it, the text can be read without that
backslash, and with any character behind it that is no letter, as the last one of a word. Where a
backslash comes before a letter, the text without it has the same tokens up to there, and what may
be wrong with it is wrong further on. -/
theorem hintsRepair (source : String) (mode : Mode) (fault : Fault)
    (failed : tokenize source mode = .error fault) :
    (fault.cause = .danglingEscape →
      ∃ front, source.toList = front ++ [escapeMark] ∧
        (∃ tokens, tokenize (String.ofList front) mode = .ok tokens) ∧
        ∀ x, isLetter x = false → ∃ body letters span final,
          tokenize (source ++ String.singleton x) mode =
            .ok (body ++ [⟨.word (String.ofList (letters ++ [x])), span⟩, final]) ∧
          final.isEof = true) ∧
      ∀ letter, fault.cause = .escapedLetter letter →
        ∃ (tokens : List Token) (before after : List Char),
          source.toList = before ++ escapeMark :: letter :: after ∧
          fault.span.start = clampOffset (utf8Size before) ∧
          (Session.start source mode).results = tokens.map .ok ++ [.error fault] ∧
          let repaired := String.ofList (before ++ letter :: after)
          tokens.map .ok <+: (Session.start repaired mode).results ∧
            ((∃ all, tokenize repaired mode = .ok all) ∨
              ∃ other, tokenize repaired mode = .error other ∧
                clampOffset (utf8Size before + letter.utf8Size) ≤ other.span.start) := by
  obtain ⟨tokens, u, after, lead, asked⟩ := Session.faultLead rfl failed
  obtain ⟨passed, whole, place⟩ := Session.leadPlaced lead (Session.startPlaced source mode)
  rw [Session.leadSource lead] at whole
  change source.toList = passed ++ u.rest at whole
  constructor
  · intro cause
    obtain ⟨blanks, glyphs, stuck⟩ := Session.danglingStuck asked cause
    have text : source.toList = passed ++ (blanks ++ (Glyph.lexeme glyphs ++ [escapeMark])) :=
      stuck.split ▸ whole
    refine ⟨passed ++ (blanks ++ Glyph.lexeme glyphs), ?_, ?_, ?_⟩
    · rw [text]
      simp only [List.append_assoc]
    · obtain ⟨word, final, mended, _⟩ :=
        Session.glyphsMended lead stuck whole stuck.proper String.toList_ofList
      exact ⟨_, mended⟩
    · intro x other
      have proper : ∀ g ∈ glyphs ++ [.escaped x], g.Proper :=
        List.forall_mem_append.mpr ⟨stuck.proper, List.forall_mem_singleton.mpr other⟩
      have longer : (source ++ String.singleton x).toList =
          passed ++ (blanks ++ Glyph.lexeme (glyphs ++ [.escaped x])) := by
        rw [String.toList_append, text, Glyph.lexemeAppend, String.toList_singleton]
        simp only [List.append_assoc]
        rfl
      obtain ⟨word, final, mended, ends, kinds⟩ :=
        Session.glyphsMended lead stuck whole proper longer
      rw [if_neg (by simp), List.map_eq_singleton_iff] at kinds
      obtain ⟨t, rfl, kind⟩ := kinds
      rw [List.map_append] at kind
      refine ⟨tokens, glyphs.map Glyph.char, t.span, final, ?_, ends⟩
      rw [mended, List.append_assoc]
      exact congrArg (fun k => Except.ok (tokens ++ [⟨k, t.span⟩, final])) kind
  · intro letter cause
    obtain ⟨escaped, blanks, glyphs, rest, stuck⟩ := Session.letterStuck asked cause
    have text : source.toList =
        passed ++ (blanks ++ Glyph.lexeme glyphs) ++ escapeMark :: letter :: rest := by
      rw [whole, stuck.split]
      simp only [List.append_assoc]
    have size : utf8Size (passed ++ (blanks ++ Glyph.lexeme glyphs)) =
        u.pos + utf8Size blanks + utf8Size (Glyph.lexeme glyphs) := by
      rw [utf8SizeAppend, utf8SizeAppend, place, Nat.add_assoc]
    obtain ⟨unfinished, results⟩ := Session.leadResults lead rfl
    refine ⟨tokens, _, rest, text, ?_, ?_, ?_⟩
    · rw [size]
      exact stuck.slash
    · rw [results, Session.results, Session.streamSteps (.last asked rfl) unfinished]
      rfl
    · intro repaired
      have again : repaired.toList =
          passed ++ (blanks ++ (Glyph.lexeme glyphs ++ letter :: rest)) := by
        rw [String.toList_ofList]
        simp only [List.append_assoc]
      obtain ⟨kept, behind⟩ := Session.letterMended lead stuck escaped whole again
      refine ⟨kept, ?_⟩
      cases read : tokenize repaired mode with
      | ok all => exact .inl ⟨all, rfl⟩
      | error other =>
        rw [size]
        exact .inr ⟨other, rfl, behind other read⟩

theorem hintsTaken :
    tokenize "12é\\#\\" .basic = .error ⟨⟨6, 7⟩, .danglingEscape, .word 2⟩ ∧
      (∃ tokens, tokenize "12é\\#" .basic = .ok tokens) ∧
      (∃ body letters span final, tokenize "12é\\#\\ " .basic =
        .ok (body ++ [⟨.word (String.ofList (letters ++ [' '])), span⟩, final]) ∧
        final.isEof = true) ∧
      tokenize "7\\8\\yz\\" .basic = .error ⟨⟨3, 5⟩, .escapedLetter 'y', .word 1⟩ ∧
      tokenize "7\\8yz\\" .basic = .error ⟨⟨5, 6⟩, .danglingEscape, .word 1⟩ ∧
      clampOffset (utf8Size "7\\8".toList + 'y'.utf8Size) ≤ 5 := by
  have dangling : tokenize "12é\\#\\" .basic = .error ⟨⟨6, 7⟩, .danglingEscape, .word 2⟩ := by
    decide +kernel
  have escaped : tokenize "7\\8\\yz\\" .basic = .error ⟨⟨3, 5⟩, .escapedLetter 'y', .word 1⟩ := by
    decide +kernel
  have other : tokenize "7\\8yz\\" .basic = .error ⟨⟨5, 6⟩, .danglingEscape, .word 1⟩ := by
    decide +kernel
  obtain ⟨front, text, shorter, longer⟩ := (hintsRepair _ _ _ dangling).1 rfl
  have same : front = "12é\\#".toList := List.append_cancel_right (text.symm.trans (by decide))
  rw [same] at shorter
  refine ⟨dangling, shorter, longer ' ' (by decide +kernel), escaped, other, ?_⟩
  obtain ⟨_, before, after, split, place, _, _, further⟩ := (hintsRepair _ _ _ escaped).2 'y' rfl
  have size : utf8Size before = 3 := by
    simp only [clampOffset, largestOffset] at place
    omega
  have parts : "7\\8".toList = before ∧ "\\yz\\".toList = escapeMark :: 'y' :: after :=
    samePlace (Eq.trans (by decide) split) (Eq.trans (by decide) size.symm)
  obtain ⟨rfl, later⟩ := parts
  have rest : "z\\".toList = after := by
    rw [← List.cons_inj_right 'y', ← List.cons_inj_right escapeMark, ← later]
    decide
  rw [← rest] at further
  rcases further with ⟨all, read⟩ | ⟨fault, read, behind⟩
  · cases (read.symm.trans other)
  · rw [Except.error.inj (read.symm.trans other)] at behind
    exact behind

end ModalLexer
