import ModalLexer.Proofs.Diagnosis
import ModalLexer.Proofs.Join
import ModalLexer.Proofs.Outcome

/-! Pointing: which faults a diagnostic can point at. The offsets of a fault count bytes, and are read
as counts of characters, so what is said depends on the characters of more than one byte. -/
namespace ModalLexer
open Text (Line)

section

variable {options : Options} {source : String} {mode : Mode} {fault : Fault}

theorem Options.listFault (failed : options.list source = .error fault) :
    fault = .missingMode 0 ∨ ∃ mode, tokenize source mode = .error fault := by
  unfold list at failed
  cases asked : options.mode with
  | none =>
    rw [tokensModeless asked] at failed
    exact .inl (Except.error.inj failed).symm
  | some mode =>
    rw [tokensModed asked] at failed
    cases read : tokenize source mode with
    | ok tokens =>
      rw [read] at failed
      contradiction
    | error other =>
      rw [read] at failed
      exact .inr ⟨mode, read.trans (congrArg _ (Except.error.inj failed))⟩

theorem faultMet (failed : tokenize source mode = .error fault) :
    ∃ (s : Session) (passed text : List Char) (snag : Snag), source.toList = passed ++ text ∧
      utf8Size passed = s.pos ∧ Obstacle text snag ∧ fault = (s.reject snag).1 := by
  obtain ⟨tokens, u, after, lead, asked⟩ := Session.faultLead rfl failed
  have going := Session.leadGoing lead rfl
  obtain ⟨passed, whole, place⟩ := Session.leadPlaced lead (Session.startPlaced source mode)
  rw [Session.leadSource lead] at whole
  cases asked with
  | exhausted ended =>
    rw [going] at ended
    contradiction
  | @fault blanks text snag _ gap first split basic obstacle =>
    refine ⟨u.past blanks text, passed ++ blanks, text, snag, ?_, ?_, obstacle, rfl⟩
    · exact whole.trans (by rw [split, List.append_assoc])
    · rw [utf8SizeAppend, place]
      rfl

theorem faultSlice (failed : tokenize source mode = .error fault) :
    ∃ before slice after, source.toList = before ++ (slice ++ after) ∧
      (slice ≠ [] ∧ ∀ c ∈ slice, Unicode.isBlank c = false) ∧
      fault.span = .between (utf8Size before) (utf8Size before + utf8Size slice) := by
  obtain ⟨s, passed, text, snag, whole, place, obstacle, rfl⟩ := faultMet failed
  obtain ⟨before, slice, after, rfl, filled, span⟩ := s.rejectSlice obstacle
  refine ⟨passed ++ before, slice, after, ?_, filled, ?_⟩
  · rw [whole, List.append_assoc]
  · rw [span, utf8SizeAppend, place]

theorem Options.faultHint (failed : options.list source = .error fault) :
    ∃ hint, fault.cause.hint = some hint := by
  rcases listFault failed with rfl | ⟨mode, read⟩
  · exact ⟨_, rfl⟩
  · obtain ⟨s, _, _, snag, _, _, _, rfl⟩ := faultMet read
    cases snag with
    | danglingEscape before =>
      simp only [Session.reject]
      split <;> exact ⟨_, rfl⟩
    | escapedLetter | numberOverflow => exact ⟨_, rfl⟩

theorem Options.faultInside (failed : options.list source = .error fault) :
    fault.span.start ≤ fault.span.stop ∧ fault.span.stop ≤ utf8Size source.toList := by
  rcases listFault failed with rfl | ⟨mode, read⟩
  · exact ⟨Nat.le_refl _, Nat.zero_le _⟩
  · obtain ⟨before, slice, after, whole, _, span⟩ := faultSlice read
    rw [span, whole, utf8SizeAppend, utf8SizeAppend]
    refine ⟨clampMono (Nat.le_add_right _ _), Nat.le_trans (Nat.min_le_left _ _) ?_⟩
    omega

theorem Options.faultStands (failed : options.list source = .error fault) (filled : source ≠ "")
    (small : source.utf8ByteSize ≤ largestOffset) :
    ∃ before c rest, source.toList = before ++ c :: rest ∧ utf8Size before = fault.span.start := by
  rcases listFault failed with rfl | ⟨mode, read⟩
  · obtain ⟨c, rest, text⟩ := List.exists_cons_of_ne_nil (mt String.toList_eq_nil_iff.mp filled)
    exact ⟨[], c, rest, text, rfl⟩
  · obtain ⟨before, slice, after, whole, some, span⟩ := faultSlice read
    obtain ⟨c, rest, rfl⟩ := List.exists_cons_of_ne_nil some.1
    have total := congrArg utf8Size whole
    rw [utf8SizeToList, utf8SizeAppend] at total
    refine ⟨before, c, rest ++ after, whole, ?_⟩
    rw [span, Span.between, clampOffsetExact (by omega)]

end

namespace Diagnostic

variable {name : String} {line other : Line} {index offset : Nat}

theorem locationText (name : String) (line : Line) (offset : Nat) :
    (location name line offset).toList = name.toList ++ ':' ::
      ((toString (line.number + 1)).toList ++ ':' ::
        (toString (offset - line.start + 1)).toList) := by
  unfold location
  simp only [String.toList_append, List.append_assoc]
  rfl

theorem locationUnique (same : location name line offset = location name other index) :
    line.number = other.number ∧ offset - line.start = index - other.start := by
  have text := congrArg String.toList same
  rw [locationText, locationText] at text
  have rest := List.append_cancel_left text
  obtain ⟨number, column⟩ := Text.naturalLegible _ _ _ _ (by simp [Text.Undigited])
    (by simp [Text.Undigited]) (List.cons.inj rest).2
  have tail := Text.legibleWhole Text.naturalLegible Text.undigitedEnd (List.cons.inj column).2
  omega

theorem locationEnds (name : String) (line : Line) (offset : Nat) :
    ∃ c, (location name line offset).toList.getLast? = some c ∧ c.isDigit = true := by
  obtain ⟨first, rest, digits, _⟩ := Text.naturalStarts (offset - line.start + 1)
  have filled : (toString (offset - line.start + 1)).toList ≠ [] := by
    rw [digits]
    exact List.cons_ne_nil _ _
  refine ⟨_, ?_, Text.digitWritten (List.getLast_mem filled)⟩
  exact endsBehind (endsBehind (List.getLast?_eq_some_getLast filled) _) _

variable {source : String} {f : Fault}

theorem locationApart : location name line offset ≠ " " ++ f.cause.message ∧
    location name line offset ≠ " " ++ f.context.label ∧ location name line offset ∉ advice f := by
  obtain ⟨c, last, digit⟩ := locationEnds name line offset
  have other {front back : String} {d : Char} (ends : back.toList.getLast? = some d)
      (noDigit : d.isDigit = false) : location name line offset ≠ front ++ back := by
    intro same
    rw [same, endsBehind ends] at last
    cases last
    rw [digit] at noDigit
    contradiction
  refine ⟨?_, ?_, ?_⟩
  · obtain ⟨d, ends, noDigit⟩ := messageEnds f.cause
    exact other ends noDigit
  · intro same
    have colon : ':' ∈ (location name line offset).toList := by simp [locationText]
    rw [same, String.toList_append, List.mem_append] at colon
    exact colon.elim (by decide) (labelPlain f.context).1
  · intro inside
    obtain ⟨hint, given, same⟩ := List.mem_map.mp inside
    obtain ⟨d, ends, noDigit⟩ := hintEnds (Option.mem_toList.mp given)
    exact other ends noDigit same.symm

theorem labelApart : " " ++ f.context.label ≠ " " ++ f.cause.message ∧
    " " ++ f.context.label ∉ advice f := by
  constructor
  · intro same
    rw [String.append_right_inj] at same
    exact messageMarked f.cause (same ▸ labelPlain f.context)
  · intro inside
    obtain ⟨hint, _, same⟩ := List.mem_map.mp inside
    have text := congrArg (fun s => s.toList.head?) same
    simp at text

theorem hintApart {hint : String} : ": " ++ hint ≠ " " ++ f.cause.message := by
  intro same
  have text := congrArg (fun s => s.toList.head?) same
  simp at text

theorem saidExact (ordered : f.span.start ≤ f.span.stop) {text : String}
    (loud : ∃ c ∈ text.toList, c ≠ ' ') :
    bare text ∈ (rows name source f).flatten ↔ text = " " ++ f.cause.message ∨
      ∃ line, Line.at? source.toList f.span.start = some line ∧
        f.span.stop ≤ source.toList.length + 1 ∧
        (text = location name line f.span.start ∨
          (f.span.stop ≤ source.toList.length ∧ text = " " ++ f.context.label) ∨
          text ∈ advice f) := by
  have heard : bare text ∈ (rows name source f).flatten ↔
      text ∈ Row.spoken (rows name source f).flatten := by
    rw [Row.spokenMember, and_iff_left loud]
  rw [heard, spokenExact name source ordered, List.mem_cons]
  apply or_congr_right
  cases Line.at? source.toList f.span.start with
  | none => simp
  | some line =>
    by_cases upto : f.span.stop ≤ source.toList.length + 1
    · by_cases inside : f.span.stop ≤ source.toList.length <;> simp [upto, inside]
    · simp [upto]

theorem locationSaid (ordered : f.span.start ≤ f.span.stop)
    (member : line ∈ Line.split source.toList) (covers : line.Covers index) :
    bare (location name line index) ∈ (rows name source f).flatten ↔
      index = f.span.start ∧ f.span.stop ≤ source.toList.length + 1 := by
  obtain ⟨noMessage, noLabel, noAdvice⟩ := @locationApart name line index f
  rw [saidExact ordered ⟨':', by simp [locationText], by decide⟩]
  constructor
  · rintro (same | ⟨first, found, upto, same | ⟨_, same⟩ | inside⟩)
    · exact absurd same noMessage
    · obtain ⟨numbers, columns⟩ := locationUnique same
      obtain ⟨other, above, _⟩ := Line.atFound found
      obtain rfl := @Line.partsUnique _ _ 0 _ _ _ _ (Line.splitParts _) member other (.inl numbers)
      have behind := covers.1
      exact ⟨by omega, upto⟩
    · exact absurd same noLabel
    · exact absurd inside noAdvice
  · rintro ⟨rfl, upto⟩
    exact .inr ⟨line, Line.atCovered member covers, upto, .inl rfl⟩

theorem labelSaid (ordered : f.span.start ≤ f.span.stop) :
    bare (" " ++ f.context.label) ∈ (rows name source f).flatten ↔
      source ≠ "" ∧ f.span.stop ≤ source.toList.length := by
  rw [saidExact ordered (labelLoud f.context), ← String.toList_eq_nil_iff.ne]
  constructor
  · rintro (same | ⟨first, found, upto, same | ⟨inside, _⟩ | other⟩)
    · exact absurd same labelApart.1
    · exact absurd same.symm locationApart.2.1
    · exact ⟨(Line.atInside.mp ⟨first, found⟩).1, inside⟩
    · exact absurd other labelApart.2
  · rintro ⟨filled, inside⟩
    obtain ⟨first, found⟩ := Line.atInside.mpr ⟨filled, Nat.le_trans ordered inside⟩
    exact .inr ⟨first, found, Nat.le_succ_of_le inside, .inr (.inl ⟨inside, rfl⟩)⟩

theorem adviceSaid (ordered : f.span.start ≤ f.span.stop) {hint : String}
    (given : f.cause.hint = some hint) :
    bare (": " ++ hint) ∈ (rows name source f).flatten ↔
      source ≠ "" ∧ f.span.start ≤ source.toList.length ∧
        f.span.stop ≤ source.toList.length + 1 := by
  have inside : ": " ++ hint ∈ advice f := by simp [advice, given]
  rw [saidExact ordered ⟨':', by simp, by decide⟩, ← String.toList_eq_nil_iff.ne]
  constructor
  · rintro (same | ⟨first, found, upto, _⟩)
    · exact absurd same hintApart
    · obtain ⟨filled, above⟩ := Line.atInside.mp ⟨first, found⟩
      exact ⟨filled, above, upto⟩
  · rintro ⟨filled, above, upto⟩
    obtain ⟨first, found⟩ := Line.atInside.mpr ⟨filled, above⟩
    exact .inr ⟨first, found, upto, .inr (.inr inside)⟩

theorem helpRowsLast {hint : String} (given : f.cause.hint = some hint) (start : Row) :
    start ++ [ink .help "Help", bare (": " ++ hint)] ∈ helpRows start f := by
  unfold helpRows
  rw [given]
  exact List.mem_cons_of_mem _ List.mem_cons_self

theorem helpSaid (ordered : f.span.start ≤ f.span.stop) {hint : String}
    (given : f.cause.hint = some hint) :
    (∃ front, front ++ [ink .help "Help", bare (": " ++ hint)] ∈ rows name source f) ↔
      source ≠ "" ∧ f.span.start ≤ source.toList.length ∧
        f.span.stop ≤ source.toList.length + 1 := by
  rw [← adviceSaid ordered given]
  constructor
  · rintro ⟨front, member⟩
    exact List.mem_flatten.mpr ⟨_, member, by simp⟩
  · intro said
    unfold rows at said ⊢
    dsimp only at said ⊢
    generalize Placement.ofSpan source.toList f.span = placement at said ⊢
    cases placement with
    | outside =>
      have same : ": " ++ hint = " " ++ f.cause.message := by
        simpa [Placement.first?, headingRow, bare, ink] using said
      exact absurd same hintApart
    | beyond line | within line =>
      refine ⟨margin (numberWidth line), ?_⟩
      simp [Placement.first?, Placement.last?, bodyRows, helpRowsLast given]
    | across first last past =>
      refine ⟨acrossHelpMargin (numberWidth last) source.toList f.span.start, ?_⟩
      simp [Placement.first?, Placement.last?, bodyRows, helpRowsLast given]

theorem rowsOutside (off : Line.at? source.toList f.span.start = none) :
    rows name source f = [headingRow f] := by
  have outside : Placement.ofSpan source.toList f.span = .outside := by
    unfold Placement.ofSpan
    rw [off]
  unfold rows
  dsimp only
  rw [outside]
  rfl

end Diagnostic

open Diagnostic

structure Located (source : String) (offset : Nat) (before : List Char) (line : Line) : Prop where
  split : ∃ c rest, source.toList = before ++ c :: rest
  bytes : utf8Size before = offset
  member : line ∈ Line.split source.toList
  covers : line.Covers before.length

/-- A diagnostic gives the place of its fault where each character in front of the fault has one
byte, and the span ends at most one further than the characters of the source. Otherwise it gives
another place or none, and for an empty source it has the heading alone. -/
theorem placeShown {options : Options} {source : String} {fault : Fault}
    (failed : options.list source = .error fault) (name : String) (color : Bool) :
    (source = "" → rows name source fault = [headingRow fault]) ∧
      (source ≠ "" → source.utf8ByteSize ≤ largestOffset →
        ∃ before line, Located source fault.span.start before line) ∧
      ∀ before line, Located source fault.span.start before line →
        let place := location name line before.length
        let counted := (∀ c ∈ before, c.utf8Size = 1) ∧
          fault.span.stop ≤ source.toList.length + 1
        (bare place ∈ (rows name source fault).flatten ↔ counted) ∧
          (counted → place.toList <:+: (render name source fault color).toList) := by
  obtain ⟨ordered, _⟩ := Options.faultInside failed
  refine ⟨?_, ?_, ?_⟩
  · rintro rfl
    exact rowsOutside (Line.atOutside.mpr (.inl rfl))
  · intro filled small
    obtain ⟨before, c, rest, split, bytes⟩ := Options.faultStands failed filled small
    obtain ⟨line, found⟩ : ∃ line, Line.at? source.toList before.length = some line := by
      rw [Line.atInside, split]
      exact ⟨by simp, by simp⟩
    obtain ⟨member, above, below⟩ := Line.atFound found
    rw [split, List.length_append, List.length_cons] at below
    exact ⟨before, line, ⟨c, rest, split⟩, bytes, member, above, by omega⟩
  · intro before line located place counted
    have shown : bare place ∈ (rows name source fault).flatten ↔ counted := by
      rw [locationSaid ordered located.member located.covers, ← located.bytes, lengthBytes]
    exact ⟨shown, fun exact => bareShown (shown.mpr exact) color⟩

theorem secondLinePlaced :
    (default : Options).list "ab\n\\c é" = .error ⟨⟨3, 5⟩, .escapedLetter 'c', .word 3⟩ ∧
      Located "ab\n\\c é" 3 ['a', 'b', '\n'] ⟨1, 3, "\\c é".toList⟩ ∧
      "t:2:1".toList <:+: (render "t" "ab\n\\c é"
        ⟨⟨3, 5⟩, .escapedLetter 'c', .word 3⟩ true).toList := by
  have failed : (default : Options).list "ab\n\\c é" =
      .error ⟨⟨3, 5⟩, .escapedLetter 'c', .word 3⟩ := by decide +kernel
  have located : Located "ab\n\\c é" 3 ['a', 'b', '\n'] ⟨1, 3, "\\c é".toList⟩ :=
    ⟨⟨'\\', "c é".toList, by decide +kernel⟩, by decide, by decide +kernel, by decide +kernel,
      by decide +kernel⟩
  obtain ⟨_, shown⟩ := (placeShown failed "t" true).2.2 _ _ located
  exact ⟨failed, located, shown ⟨by simp; decide, by decide +kernel⟩⟩

theorem accentMovesPlace :
    (default : Options).list "é \\a bcd" = .error ⟨⟨3, 5⟩, .escapedLetter 'a', .word 3⟩ ∧
      Located "é \\a bcd" 3 ['é', ' '] ⟨0, 0, "é \\a bcd".toList⟩ ∧
      location "t" ⟨0, 0, "é \\a bcd".toList⟩ 2 = "t:1:3" ∧
      ¬ "t:1:3".toList <:+: (render "t" "é \\a bcd"
        ⟨⟨3, 5⟩, .escapedLetter 'a', .word 3⟩ false).toList := by
  have located : Located "é \\a bcd" 3 ['é', ' '] ⟨0, 0, "é \\a bcd".toList⟩ :=
    ⟨⟨'\\', "a bcd".toList, by decide +kernel⟩, by decide, by decide +kernel, by decide +kernel,
      by decide +kernel⟩
  refine ⟨by decide +kernel, located, by decide +kernel, ?_⟩
  rw [renderText]
  decide +kernel

/-- All faults come with advice. A diagnostic has the label of its fault where there is any source and
the offset at which the span stops is no more than the characters of the source. It has the advice
where the span starts among these characters and stops at most one further than they do. Where each
character has one byte, all spans are so. -/
theorem labelAndAdviceShown {options : Options} {source : String} {fault : Fault}
    (failed : options.list source = .error fault) (name : String) (color : Bool) :
    let count := source.toList.length
    let start := fault.span.start
    let stop := fault.span.stop
    (bare (" " ++ fault.context.label) ∈ (rows name source fault).flatten ↔
        source ≠ "" ∧ stop ≤ count) ∧
      (source ≠ "" → stop ≤ count →
        fault.context.label.toList <:+: (render name source fault color).toList) ∧
      (∃ hint, fault.cause.hint = some hint ∧
        ((∃ front, front ++ [ink .help "Help", bare (": " ++ hint)] ∈ rows name source fault) ↔
          source ≠ "" ∧ start ≤ count ∧ stop ≤ count + 1) ∧
        (source ≠ "" → start ≤ count → stop ≤ count + 1 →
          ((ink .help "Help").render color ++ ": " ++ hint ++ "\n").toList <:+:
            (render name source fault color).toList)) ∧
      ((∀ c ∈ source.toList, c.utf8Size = 1) → stop ≤ count) := by
  intro count start stop
  obtain ⟨ordered, inside⟩ := Options.faultInside failed
  obtain ⟨hint, given⟩ := Options.faultHint failed
  have label := @labelSaid name source fault ordered
  have help := @helpSaid name source fault ordered hint given
  refine ⟨label, ?_, ⟨hint, given, help, ?_⟩, ?_⟩
  · intro filled upto
    have shown := bareShown (label.mpr ⟨filled, upto⟩) color
    rw [String.toList_append] at shown
    exact (List.suffix_append _ _).isInfix.trans shown
  · intro filled above upto
    obtain ⟨front, member⟩ := help.mpr ⟨filled, above, upto⟩
    have shown := rowShown member color
    have line : Row.render color [ink .help "Help", bare (": " ++ hint)] =
        (ink .help "Help").render color ++ ": " ++ hint := by
      simp only [Row.render, List.map_cons, List.map_nil, String.join_cons, String.join_nil,
        String.append_empty, String.append_assoc]
      rfl
    rw [rowAppend, String.append_assoc, String.toList_append, line] at shown
    exact (List.suffix_append _ _).isInfix.trans shown
  · intro single
    rw [← (lengthBytes source.toList).mpr single] at inside
    exact inside

theorem labelBehindAccent :
    let fault : Fault := ⟨⟨6, 8⟩, .escapedLetter 'd', .word 6⟩
    let shown := (render "t" "é bc \\d ef" fault true).toList
    (default : Options).list "é bc \\d ef" = .error fault ∧
      "in the word starting at offset 6".toList <:+: shown ∧
      ∃ hint, fault.cause.hint = some hint ∧
        ((ink .help "Help").render true ++ ": " ++ hint ++ "\n").toList <:+: shown := by
  intro fault shown
  have failed : (default : Options).list "é bc \\d ef" = .error fault := by decide +kernel
  have count : "é bc \\d ef".toList.length = 10 := by decide +kernel
  obtain ⟨_, label, ⟨hint, given, _, help⟩, _⟩ := labelAndAdviceShown failed "t" true
  rw [count] at label help
  exact ⟨failed, label (by simp) (by decide), hint, given,
    help (by simp) (by decide) (by decide)⟩

theorem wideWordUnsaid :
    (default : Options).list "世世\\" = .error ⟨⟨6, 7⟩, .danglingEscape, .word 0⟩ ∧
      ¬ (Context.word 0).label.toList <:+: (render "t" "世世\\"
        ⟨⟨6, 7⟩, .danglingEscape, .word 0⟩ false).toList ∧
      ∃ hint, Cause.danglingEscape.hint = some hint ∧
        ¬ hint.toList <:+: (render "t" "世世\\"
          ⟨⟨6, 7⟩, .danglingEscape, .word 0⟩ false).toList := by
  rw [renderText]
  exact ⟨by decide +kernel, by decide +kernel, _, rfl, by decide +kernel⟩

end ModalLexer
