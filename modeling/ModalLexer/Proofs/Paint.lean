import ModalLexer.Proofs.Diagnosis
import ModalLexer.Proofs.Recovery

/-! Paint: the colour sequences of a terminal and the text without them. A diagnostic whose name and
source have no escape character is the text of its rows once the paint is taken off. -/
namespace ModalLexer.Diagnostic
open Text (Line)
open Unicode (isBlank isControl isLetter)

def escape : Char := '\x1b'

def isParameter (c : Char) : Bool := c.isDigit || c == ';'

def behindColor? : List Char → Option (List Char)
  | '\x1b' :: '[' :: text =>
    match text.dropWhile isParameter with
    | 'm' :: rest => some rest
    | _ => none
  | _ => none

theorem behindColorShorter {text rest : List Char} (found : behindColor? text = some rest) :
    rest.length < text.length := by
  unfold behindColor? at found
  split at found
  · next text =>
    split at found
    · next front =>
      cases found
      have shorter := (List.dropWhile_suffix isParameter (l := text)).length_le
      rw [front, List.length_cons] at shorter
      simp only [List.length_cons]
      omega
    · contradiction
  · contradiction

def unpainted (text : List Char) : List Char :=
  match text with
  | [] => []
  | c :: rest =>
    match _found : behindColor? (c :: rest) with
    | some behind => unpainted behind
    | none => c :: unpainted rest
termination_by text.length
decreasing_by
  · exact behindColorShorter _found
  · exact Nat.lt_succ_self _

@[simp] theorem unpaintedNil : unpainted [] = [] := by rw [unpainted]

theorem unpaintedCons {c : Char} (plain : c ≠ escape) (rest : List Char) :
    unpainted (c :: rest) = c :: unpainted rest := by
  have none : behindColor? (c :: rest) = none := by
    unfold behindColor?
    split
    · next same => exact absurd (List.cons.inj same).1 plain
    · rfl
  rw [unpainted]
  split
  · next found =>
    rw [none] at found
    contradiction
  · rfl

theorem unpaintedBehind {text rest : List Char} (found : behindColor? text = some rest) :
    unpainted text = unpainted rest := by
  cases text with
  | nil => contradiction
  | cons c text =>
    rw [unpainted]
    split
    · next other =>
      rw [found] at other
      cases other
      rfl
    · next other =>
      rw [found] at other
      contradiction

theorem unpaintedPlain {text : List Char} (plain : escape ∉ text) (rest : List Char) :
    unpainted (text ++ rest) = text ++ unpainted rest := by
  induction text with
  | nil => rfl
  | cons c text ih =>
    rw [List.mem_cons, not_or] at plain
    rw [List.cons_append, unpaintedCons (Ne.symm plain.1), ih plain.2, List.cons_append]

theorem unpaintedColor {code : String} (parameters : code.toList.all isParameter = true)
    (rest : List Char) : unpainted (("\x1b[" ++ code ++ "m").toList ++ rest) = unpainted rest := by
  have text : ("\x1b[" ++ code ++ "m").toList ++ rest =
      '\x1b' :: '[' :: (code.toList ++ 'm' :: rest) := by
    simp
  have front : (code.toList ++ 'm' :: rest).dropWhile isParameter = 'm' :: rest :=
    dropWhileExact (List.all_eq_true.mp parameters) (by simp [isParameter])
  rw [text]
  apply unpaintedBehind
  simp only [behindColor?, front]

theorem codeParameters {color : Bool} {hue : Hue} {code : String}
    (given : hue.code? color = some code) : code.toList.all isParameter = true := by
  cases hue with
  | mark =>
    cases given
    decide
  | heading | frame | gutter | source | help =>
    cases color with
    | false => contradiction
    | true =>
      cases given
      decide

theorem unpaintedInk {i : Ink} (plain : escape ∉ i.text.toList) (color : Bool) (rest : List Char) :
    unpainted ((i.render color).toList ++ rest) = i.text.toList ++ unpainted rest := by
  rw [Ink.render]
  cases given : i.hue.bind (Hue.code? color) with
  | none => exact unpaintedPlain plain rest
  | some code =>
    obtain ⟨hue, _, coded⟩ := Option.bind_eq_some_iff.mp given
    have reset : "0".toList.all isParameter = true := by decide
    have painted : (paint code i.text).toList ++ rest = ("\x1b[" ++ code ++ "m").toList ++
        (i.text.toList ++ (("\x1b[" ++ "0" ++ "m").toList ++ rest)) := by
      simp [paint]
    dsimp only
    rw [painted, unpaintedColor (codeParameters coded), unpaintedPlain plain, unpaintedColor reset]

namespace Row

def Lacks (d : Char) (row : Row) : Prop := ∀ i ∈ row, d ∉ i.text.toList

def Visible (row : Row) : Prop := ∀ i ∈ row, Text.Visible i.text.toList

variable {d : Char} {row left right : Row}

theorem textList (row : Row) : (text row).toList = row.flatMap fun i => i.text.toList := by
  simp [text, String.toList_join, List.flatMap_map]

theorem lacksAppend : Lacks d (left ++ right) ↔ Lacks d left ∧ Lacks d right :=
  List.forall_mem_append

theorem lacksCons {i : Ink} : Lacks d (i :: row) ↔ d ∉ i.text.toList ∧ Lacks d row :=
  List.forall_mem_cons

theorem visibleLacks (control : isControl d = true) (visible : Visible row) : Lacks d row := by
  intro i member inside
  have seen := visible i member d inside
  rw [control] at seen
  contradiction

theorem textLacks (lacks : Lacks d row) : d ∉ (text row).toList := by
  rw [textList, List.mem_flatMap]
  rintro ⟨i, member, inside⟩
  exact lacks i member inside

theorem unpaintedRow (lacks : Lacks escape row) (color : Bool) (rest : List Char) :
    unpainted ((row.flatMap fun i => (i.render color).toList) ++ rest) =
      (text row).toList ++ unpainted rest := by
  rw [textList]
  induction row with
  | nil => rfl
  | cons i row ih =>
    obtain ⟨plain, later⟩ := lacksCons.mp lacks
    rw [List.flatMap_cons, List.flatMap_cons, List.append_assoc, unpaintedInk plain, ih later,
      List.append_assoc]

end Row

theorem unpaintedRows {rows : List Row} (lacks : ∀ row ∈ rows, row.Lacks escape) (color : Bool) :
    unpainted (Text.unlines (rows.map (Row.render color))).toList =
      (Text.unlines (rows.map Row.text)).toList := by
  induction rows with
  | nil => exact unpaintedNil
  | cons row rows ih =>
    obtain ⟨plain, later⟩ := List.forall_mem_cons.mp lacks
    have painted : (row.render color).toList = row.flatMap fun i => (i.render color).toList := by
      simp [Row.render, String.toList_join, List.flatMap_map]
    rw [List.map_cons, List.map_cons, unlinesCons, unlinesCons, painted,
      Row.unpaintedRow plain, unpaintedCons (by decide), ih later]

section

open Text (visibleAppend naturalVisible)

theorem letterVisible {c : Char} (letter : isLetter c = true) : isControl c = false := by
  rw [← Bool.not_eq_true, Unicode.controlExact]
  have above := letterAbove letter
  have apart : ∀ n < 0x21, Unicode.letters.contains (0x7F + n) = false := by decide +kernel
  rintro (low | ⟨lower, upper⟩)
  · omega
  · have other := apart (c.toNat - 0x7F) (by omega)
    rw [Nat.add_sub_cancel' lower] at other
    exact absurd letter (Bool.eq_false_iff.mp other)

theorem numeralVisible {c : Char} (numeral : isNumeral c = true) : isControl c = false := by
  rw [isNumeral, Bool.or_eq_true, beq_iff_eq] at numeral
  rcases numeral with digit | rfl
  · exact Text.digitVisible digit
  · decide

theorem runVisible {c : Char} (seen : isControl c = false) (count : Nat) :
    Text.Visible (String.ofList (List.replicate count c)).toList := by
  intro d member
  rw [String.toList_ofList] at member
  rw [List.eq_of_mem_replicate member, seen]

theorem spacesVisible (count : Nat) : Text.Visible (spaces count).toList :=
  runVisible (by decide) count

theorem visibleJoin {left right : String} (front : Text.Visible left.toList)
    (back : Text.Visible right.toList) : Text.Visible (left ++ right).toList := by
  rw [String.toList_append, visibleAppend]
  exact ⟨front, back⟩

theorem visibleRow {i : Ink} {row : Row} (first : Text.Visible i.text.toList) (later : row.Visible) :
    Row.Visible (i :: row) := List.forall_mem_cons.mpr ⟨first, later⟩

theorem visibleEnd : Row.Visible [] := List.forall_mem_nil _

theorem visibleBeside {left right : Row} (front : left.Visible) (back : right.Visible) :
    Row.Visible (left ++ right) := List.forall_mem_append.mpr ⟨front, back⟩

theorem gapVisible : Text.Visible (bare " ").text.toList := by decide

theorem marginVisible (width : Nat) : Row.Visible (margin width) :=
  visibleRow gapVisible (visibleRow (visibleJoin (spacesVisible _) (by decide))
    (visibleRow gapVisible visibleEnd))

theorem gapMarginVisible (width : Nat) : Row.Visible (gapMargin width) :=
  visibleRow gapVisible (visibleRow (visibleJoin (spacesVisible _) (by decide))
    (visibleRow gapVisible visibleEnd))

theorem numberedVisible (width : Nat) (line : Line) : Row.Visible (numberedMargin width line) :=
  visibleRow gapVisible (visibleRow
    (visibleJoin (visibleJoin (spacesVisible _) (naturalVisible _)) (by decide))
    (visibleRow gapVisible visibleEnd))

theorem headingVisible {f : Fault} (message : Text.Visible f.cause.message.toList) :
    Row.Visible (headingRow f) := by
  have codeSeen : Text.Visible "L0002".toList ∧ Text.Visible "L0003".toList := by decide
  have code : Text.Visible f.cause.code.toList := by
    cases f.cause with
    | exhausted | missingMode => decide
    | danglingEscape | escapedLetter => exact codeSeen.1
    | numberOverflow => exact codeSeen.2
  exact visibleRow (visibleJoin (visibleJoin (by decide) code) (by decide))
    (visibleRow (visibleJoin (by decide) message) visibleEnd)

theorem labelVisible (c : Context) : Text.Visible c.label.toList := by
  cases c with
  | topLevel | modeOverride => decide +kernel
  | word start | number start => exact visibleJoin (by decide +kernel) (naturalVisible start)

theorem hintVisible {c : Cause} {hint : String} (given : c.hint = some hint) :
    Text.Visible hint.toList := by
  cases c with
  | exhausted => contradiction
  | danglingEscape | escapedLetter | numberOverflow | missingMode =>
    cases given
    decide +kernel

theorem strokesVisible (count : Nat) : Row.Visible (List.replicate count stroke) := by
  intro i member
  rw [List.eq_of_mem_replicate member]
  decide

theorem underlineVisible (s : Span) (line : Line) : Row.Visible (underlineRow s line) := by
  intro i member
  rcases underlineInk member with rfl | rfl | rfl | rfl | rfl <;> decide

theorem hookVisible (s : Span) (line : Line) : Row.Visible (hookRow s line) := by
  intro i member
  rcases hookInk member with rfl | rfl | rfl <;> decide

theorem arrowVisible {corner : String} (visible : Text.Visible corner.toList) :
    Row.Visible (arrow corner) :=
  visibleRow visible (visibleRow (by decide) (visibleRow (by decide)
    (visibleRow (by decide) visibleEnd)))

theorem helpVisible {start : Row} (visible : start.Visible) (f : Fault) :
    ∀ row ∈ helpRows start f, row.Visible := by
  unfold helpRows
  cases given : f.cause.hint with
  | none => exact List.forall_mem_nil _
  | some hint =>
    have advice : Row.Visible [ink .help "Help", bare (": " ++ hint)] :=
      visibleRow (by decide) (visibleRow (visibleJoin (by decide) (hintVisible given)) visibleEnd)
    simp only [List.forall_mem_cons]
    exact ⟨visible, visibleBeside visible advice, List.forall_mem_nil _⟩

theorem acrossHelpVisible (width : Nat) (text : List Char) (start : Nat) :
    Row.Visible (acrossHelpMargin width text start) := by
  unfold acrossHelpMargin
  dsimp only
  refine visibleBeside (visibleBeside (marginVisible width) ?_) (visibleRow (by decide) visibleEnd)
  split
  · exact visibleRow (by decide) (visibleRow (by decide) visibleEnd)
  · exact visibleRow (by decide) visibleEnd

end

theorem drawnChar (column : Nat) (c : Char) : (Drawn.ofChar column c).char = ' ' ∨
    (Drawn.ofChar column c).char = c ∧ isBlank c = false := by
  unfold Drawn.ofChar
  split
  · exact .inl rfl
  · split
    · exact .inl rfl
    · next unblank => exact .inr ⟨rfl, Bool.eq_false_iff.mpr unblank⟩

theorem sourceInk {i : Ink} {s : Span} {line : Line} (member : i ∈ sourceRow s line) :
    ∃ c, i.text.toList = [c] ∧ (c = ' ' ∨ c ∈ line.text ∧ isBlank c = false) := by
  rw [sourceRow, List.mem_flatMap] at member
  obtain ⟨entry, inside, member⟩ := member
  obtain ⟨⟨c, column⟩, place, drawn⟩ := List.mem_map.mp (List.fst_mem_of_mem_zipIdx inside)
  rw [List.eq_of_mem_replicate member, ← drawn]
  refine ⟨(Drawn.ofChar column c).char, String.toList_singleton _, ?_⟩
  refine (drawnChar column c).imp_right fun other => ?_
  obtain ⟨same, unblank⟩ := other
  rw [same]
  exact ⟨line.trimmedPrefix.subset (List.fst_mem_of_mem_zipIdx place), unblank⟩

theorem placementLines {text : List Char} {s : Span} {line : Line}
    (shown : (Placement.ofSpan text s).first? = some line ∨
      (Placement.ofSpan text s).last? = some line) : line ∈ Line.split text := by
  unfold Placement.ofSpan at shown
  dsimp only at shown
  split at shown
  · next first last found other =>
    have one := (Line.atFound found).1
    have two := (Line.atFound other).1
    split at shown
    · split at shown <;> rcases shown with same | same <;> cases same <;> exact one
    · rcases shown with same | same
      · cases same
        exact one
      · cases same
        exact two
  · rcases shown with same | same <;> contradiction

section

variable {d : Char} (control : isControl d = true)
include control

theorem sourceLacks {line : Line} (free : isBlank d = true ∨ d ∉ line.text) (s : Span) :
    Row.Lacks d (sourceRow s line) := by
  intro i member inside
  obtain ⟨c, text, origin⟩ := sourceInk member
  rw [text, List.mem_singleton] at inside
  subst inside
  rcases origin with rfl | ⟨member, unblank⟩
  · exact absurd control (by decide)
  · rcases free with blank | apart
    · rw [unblank] at blank
      contradiction
    · exact apart member

theorem locationLacks {name : String} (named : d ∉ name.toList) (width : Nat) (line : Line)
    (start : Nat) : Row.Lacks d (locationRow width name line start) := by
  have place : Text.Visible
      (":" ++ (toString (line.number + 1) ++ ":" ++ toString (start - line.start + 1))).toList :=
    visibleJoin (by decide) (visibleJoin (visibleJoin (Text.naturalVisible _) (by decide))
      (Text.naturalVisible _))
  have front : Row.Visible [bare (spaces (width + 2)), ink .frame "╭", ink .frame "─",
      ink .frame "["] :=
    visibleRow (spacesVisible _) (visibleRow (by decide) (visibleRow (by decide)
      (visibleRow (by decide) visibleEnd)))
  have back : Row.Visible [ink .frame "]"] := visibleRow (by decide) visibleEnd
  refine Row.lacksAppend.mpr ⟨Row.visibleLacks control front, Row.lacksCons.mpr
    ⟨?_, Row.visibleLacks control back⟩⟩
  intro inside
  rw [bare, String.append_assoc, String.toList_append, List.mem_append] at inside
  exact inside.elim named fun other => by simpa [control] using place d other

theorem acrossLacks {first last : Line} (free : isBlank d = true ∨ d ∉ first.text)
    (alike : isBlank d = true ∨ d ∉ last.text) (width : Nat) (f : Fault) (past : Bool) :
    ∀ row ∈ acrossRows width f first last past, row.Lacks d := by
  have lacks {row : Row} (visible : row.Visible) := Row.visibleLacks control visible
  have opening : Row.Visible (numberedMargin width first ++ arrow "╭") :=
    visibleBeside (numberedVisible width first) (arrowVisible (by decide))
  have closing : Row.Visible (numberedMargin width last ++ arrow "├") :=
    visibleBeside (numberedVisible width last) (arrowVisible (by decide))
  have gap : Row.Visible (gapMargin width ++ [ink .mark "┆", bare "   "]) :=
    visibleBeside (gapMarginVisible width)
      (visibleRow (by decide) (visibleRow (by decide) visibleEnd))
  have stem (count : Nat) : Row.Visible (margin width ++ [ink .mark "│", bare (spaces count)]) :=
    visibleBeside (marginVisible width)
      (visibleRow (by decide) (visibleRow (spacesVisible count) visibleEnd))
  have label (count : Nat) : Row.Visible (margin width ++ [ink .mark "╰", stroke, stroke, stroke] ++
      List.replicate count stroke ++ [bare (" " ++ f.context.label)]) :=
    visibleBeside (visibleBeside (visibleBeside (marginVisible width)
        (visibleRow (by decide) (strokesVisible 3))) (strokesVisible count))
      (visibleRow (visibleJoin (by decide) (labelVisible f.context)) visibleEnd)
  unfold acrossRows
  dsimp only
  rw [List.append_assoc, List.forall_mem_append, List.forall_mem_append, List.forall_mem_singleton]
  refine ⟨Row.lacksAppend.mpr ⟨lacks opening, sourceLacks control free f.span⟩, ?_, ?_⟩
  · split
    · exact List.forall_mem_singleton.mpr (lacks gap)
    · exact List.forall_mem_nil _
  · split
    · exact List.forall_mem_nil _
    · simp only [List.forall_mem_cons]
      exact ⟨Row.lacksAppend.mpr ⟨lacks closing, sourceLacks control alike f.span⟩, lacks (stem _),
        lacks (label _), List.forall_mem_nil _⟩

theorem bodyLacks {placement : Placement}
    (free : ∀ line, placement.first? = some line ∨ placement.last? = some line →
      isBlank d = true ∨ d ∉ line.text)
    (width : Nat) (text : List Char) (f : Fault) :
    ∀ row ∈ bodyRows width text f placement, row.Lacks d := by
  have lacks {row : Row} (visible : row.Visible) := Row.visibleLacks control visible
  have help {start : Row} (visible : start.Visible) :
      ∀ row ∈ helpRows start f, row.Lacks d :=
    fun row member => lacks (helpVisible visible f row member)
  have label : Row.Visible [bare (" " ++ f.context.label)] :=
    visibleRow (visibleJoin (by decide) (labelVisible f.context)) visibleEnd
  cases placement with
  | outside => exact List.forall_mem_nil _
  | beyond line =>
    rw [bodyRows, List.forall_mem_append, List.forall_mem_singleton]
    exact ⟨lacks (marginVisible width), help (marginVisible width)⟩
  | within line =>
    have source := sourceLacks control (free line (.inl rfl)) f.span
    have plain := lacks (marginVisible width)
    simp only [bodyRows, List.forall_mem_append, List.forall_mem_cons, Row.lacksAppend]
    exact ⟨⟨⟨lacks (numberedVisible width line), source⟩,
      ⟨plain, lacks (underlineVisible f.span line)⟩,
      ⟨⟨plain, lacks (hookVisible f.span line)⟩, lacks label⟩, List.forall_mem_nil _⟩,
      help (marginVisible width)⟩
  | across first last past =>
    rw [bodyRows, List.forall_mem_append]
    exact ⟨acrossLacks control (free first (.inl rfl)) (free last (.inr rfl)) width f past,
      help (acrossHelpVisible width text f.span.start)⟩

theorem rowsLacks {name source : String} {f : Fault} (named : d ∉ name.toList)
    (free : isBlank d = true ∨ d ∉ source.toList)
    (message : Text.Visible f.cause.message.toList) : ∀ row ∈ rows name source f, row.Lacks d := by
  have lines : ∀ line, (Placement.ofSpan source.toList f.span).first? = some line ∨
      (Placement.ofSpan source.toList f.span).last? = some line →
      isBlank d = true ∨ d ∉ line.text := by
    intro line shown
    refine free.imp_right fun apart inside => apart ?_
    obtain ⟨before, after, whole, _⟩ :=
      Line.partsSlice (Line.splitParts source.toList) (placementLines shown)
    rw [whole]
    simp [inside]
  have lacks {row : Row} (visible : row.Visible) := Row.visibleLacks control visible
  unfold rows
  dsimp only
  split
  · next first last _ _ =>
    generalize numberWidth last = width
    have opening : Row.Visible [bare (spaces (width + 2)), ink .frame "│"] :=
      visibleRow (spacesVisible _) (visibleRow (by decide) visibleEnd)
    have closing : Row.Visible
        [ink .frame (String.ofList (List.replicate (width + 2) '─') ++ "╯")] :=
      visibleRow (visibleJoin (runVisible (by decide) _) (by decide)) visibleEnd
    simp only [List.forall_mem_append, List.forall_mem_cons]
    exact ⟨⟨⟨lacks (headingVisible message), locationLacks control named width first f.span.start,
      lacks opening, List.forall_mem_nil _⟩, bodyLacks control lines width _ f⟩, lacks closing,
      List.forall_mem_nil _⟩
  · exact List.forall_mem_singleton.mpr (lacks (headingVisible message))

end

end ModalLexer.Diagnostic
