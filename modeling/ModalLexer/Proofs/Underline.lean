import ModalLexer.Proofs.Cells
import ModalLexer.Proofs.Colour
import ModalLexer.Proofs.Pointing

/-! Underlines. Where all the characters of a source are ASCII, a diagnostic quotes one line of it and
underlines the characters of the fault. A fault has no blank in it, so no line ends inside one. -/
namespace ModalLexer
open Text (Line)
open Unicode (isBlank cellWidth)

namespace Diagnostic

variable {line : Line}

inductive Labels : Context → String → Prop where
  | topLevel : Labels .topLevel "here"
  | word (start : Nat) : Labels (.word start) ("in the word starting at offset " ++ toString start)
  | number (start : Nat) :
      Labels (.number start) ("in the number starting at offset " ++ toString start)

def quoting (name : String) (line : Line) (f : Fault) (quote under hook label : String) :
    List String :=
  let number := toString (line.number + 1)
  let gutter := spaces (number.length + 2) ++ "│ "
  ["[" ++ f.cause.code ++ "] Error: " ++ f.cause.message,
    spaces (number.length + 2) ++ "╭─[" ++ location name line f.span.start ++ "]",
    spaces (number.length + 2) ++ "│",
    " " ++ number ++ " │ " ++ quote,
    gutter ++ under,
    gutter ++ hook ++ " " ++ label] ++
    f.cause.hint.toList.flatMap (fun hint => [gutter, gutter ++ "Help: " ++ hint]) ++
    [String.ofList (List.replicate (number.length + 2) '─') ++ "╯"]

theorem marginText (width : Nat) : Row.text (margin width) = spaces (width + 2) ++ "│ " := by
  apply String.toList_inj.mp
  simp [Row.text, margin, bare, ink, spaces, List.replicate_succ]

theorem helpText (start : Row) (f : Fault) : (helpRows start f).map Row.text =
    f.cause.hint.toList.flatMap fun hint =>
      [Row.text start, Row.text start ++ "Help: " ++ hint] := by
  unfold helpRows
  cases f.cause.hint with
  | none => rfl
  | some hint =>
    have advice : Row.text [ink .help "Help", bare (": " ++ hint)] = "Help: " ++ hint := by
      apply String.toList_inj.mp
      simp [Row.text, bare, ink]
    rw [List.map_cons, List.map_cons, List.map_nil, textAppend, advice, ← String.append_assoc]
    rfl

theorem headingText (f : Fault) :
    Row.text (headingRow f) = "[" ++ f.cause.code ++ "] Error: " ++ f.cause.message := by
  apply String.toList_inj.mp
  simp [Row.text, headingRow, bare, ink]

theorem placeText (width : Nat) (name : String) (line : Line) (start : Nat) :
    Row.text (locationRow width name line start) =
      spaces (width + 2) ++ "╭─[" ++ location name line start ++ "]" := by
  apply String.toList_inj.mp
  simp [Row.text, locationRow, location, bare, ink]

theorem numberedText (line : Line) :
    Row.text (numberedMargin (numberWidth line) line) =
      " " ++ toString (line.number + 1) ++ " │ " := by
  apply String.toList_inj.mp
  simp [Row.text, numberedMargin, numberWidth, bare, ink, spaces]

theorem rowsQuoting (name : String) {source : String} {f : Fault}
    (placed : Placement.ofSpan source.toList f.span = .within line) :
    (rows name source f).map Row.text = quoting name line f (Row.text (sourceRow f.span line))
      (Row.text (underlineRow f.span line)) (Row.text (hookRow f.span line)) f.context.label := by
  have alone (i : Ink) : Row.text [i] = i.text := by
    rw [textCons]
    exact String.append_empty
  have opening (width : Nat) : Row.text [bare (spaces (width + 2)), ink .frame "│"] =
      spaces (width + 2) ++ "│" := by
    rw [textCons, alone]
    rfl
  unfold rows
  dsimp only
  rw [placed]
  simp only [Placement.first?, Placement.last?, bodyRows, List.map_append, List.map_cons,
    List.map_nil, helpText, textAppend, marginText, numberedText, headingText, placeText, opening,
    alone]
  rw [quoting]
  simp only [numberWidth, bare, ink, ← String.append_assoc]
  rfl

theorem withinPlaced {s : Span} {text : List Char} (first : Line.at? text s.start = some line)
    (last : s.start < s.stop → Line.at? text (s.stop - 1) = some line) (upto : s.stop ≤ line.stop) :
    Placement.ofSpan text s = .within line := by
  have same : Line.at? text (if s.stop ≤ s.start then s.start else s.stop - 1) = some line := by
    split
    · exact first
    · next some => exact last (Nat.lt_of_not_le some)
  unfold Placement.ofSpan
  dsimp only
  rw [first, same]
  dsimp only
  rw [if_pos rfl, if_neg (Nat.not_lt.mpr upto)]

theorem shownPlaced {s : Span} {text before slice after : List Char}
    (whole : text = before ++ (slice ++ after)) (some : text ≠ [])
    (unblank : ∀ c ∈ slice, isBlank c = false) (start : before.length = s.start)
    (stop : s.start + slice.length = s.stop) :
    ∃ line ∈ Line.split text, line.start ≤ s.start ∧ s.stop ≤ line.stop ∧
      Placement.ofSpan text s = .within line ∧
      (slice ≠ [] → ∃ head tail, Shown line s head slice tail) := by
  have total := congrArg List.length whole
  rw [List.length_append, List.length_append] at total
  obtain ⟨line, found⟩ := Line.atInside.mpr ⟨some, (by omega : s.start ≤ text.length)⟩
  obtain ⟨member, above, below⟩ := Line.atFound found
  by_cases filled : slice = []
  · have empty : s.stop = s.start := by rw [← stop, filled, List.length_nil, Nat.add_zero]
    refine ⟨line, member, above, by omega, withinPlaced found ?_ (by omega), absurd filled⟩
    intro some
    omega
  · have size := List.length_pos_iff.mpr filled
    have covers : line.Covers before.length := ⟨by omega, by omega⟩
    obtain ⟨head, tail, trimmed, place⟩ := Line.shownWhole whole filled unblank member covers
    have upto : s.stop ≤ line.stop := by
      have shorter := line.trimmedPrefix.length_le
      rw [trimmed, List.length_append, List.length_append] at shorter
      rw [Line.stop]
      omega
    have final : line.Covers (s.stop - 1) := ⟨by omega, by omega⟩
    refine ⟨line, member, above, upto, withinPlaced found ?_ upto, fun _ => ⟨head, tail, ?_⟩⟩
    · exact fun _ => Line.atCovered member final
    · exact ⟨trimmed, place.trans start, stop, unblank⟩

end Diagnostic

open Diagnostic

theorem asciiSlice {source : String} {mode : Mode} {fault : Fault}
    (failed : tokenize source mode = .error fault) (ascii : ∀ c ∈ source.toList, c.toNat < 128) :
    source.toList ≠ [] ∧ ∃ before slice after, source.toList = before ++ (slice ++ after) ∧
      (∀ c ∈ slice, isBlank c = false) ∧ before.length = fault.span.start ∧
      fault.span.start + slice.length = fault.span.stop ∧
      (source.utf8ByteSize ≤ largestOffset → slice ≠ []) := by
  obtain ⟨before, slice, after, whole, ⟨filled, unblank⟩, span⟩ := faultSlice failed
  have single {text : List Char} (inside : text ⊆ source.toList) : utf8Size text = text.length :=
    ((lengthBytes text).mpr fun c member => sizeOne.mpr (ascii c (inside member))).symm
  have size := List.length_pos_iff.mpr filled
  rw [single (by simp [whole]), single (by simp [whole])] at span
  refine ⟨by simp [whole, filled], ?_⟩
  by_cases inner : before.length < largestOffset
  · refine ⟨before, slice.take (largestOffset - before.length),
      slice.drop (largestOffset - before.length) ++ after, ?_, ?_, ?_, ?_, ?_⟩
    · rw [whole, ← List.append_assoc (slice.take _), List.take_append_drop]
    · exact fun c member => unblank c (List.mem_of_mem_take member)
    · rw [span, Span.between, clampOffsetExact (Nat.le_of_lt inner)]
    · rw [span, Span.between, clampOffsetExact (Nat.le_of_lt inner), List.length_take, clampOffset]
      dsimp only
      omega
    · intro _
      apply List.ne_nil_of_length_pos
      rw [List.length_take]
      omega
  · -- All of the span is beyond the largest offset, where it starts and stops.
    have large := Nat.le_of_not_lt inner
    refine ⟨source.toList.take largestOffset, [], source.toList.drop largestOffset, ?_, ?_, ?_, ?_, ?_⟩
    · rw [List.nil_append, List.take_append_drop]
    · exact List.forall_mem_nil _
    · rw [span, List.length_take, whole, List.length_append, Span.between, clampOffset]
      dsimp only
      omega
    · rw [span, Span.between, clampOffset, clampOffset]
      dsimp only
      rw [List.length_nil]
      omega
    · intro small
      rw [← utf8SizeToList, single (List.Subset.refl _), whole, List.length_append,
        List.length_append] at small
      omega

theorem faultLabelled {source : String} {mode : Mode} {fault : Fault}
    (failed : tokenize source mode = .error fault) : Labels fault.context fault.context.label := by
  obtain ⟨s, _, _, snag, _, _, _, rfl⟩ := faultMet failed
  cases snag with
  | danglingEscape before =>
    simp only [Session.reject]
    split
    · exact .topLevel
    · exact .word _
  | escapedLetter => exact .word _
  | numberOverflow => exact .number _

/-- In an ASCII source a diagnostic quotes the one line that has all of the span of its fault, without
the blanks at its end and with spaces for tabs, whose stops are counted in characters and not in
cells. No other layout comes up. The row below underlines the characters of the span and nothing
else, and the next one has the label. Only past the largest offset may a span have no characters. -/
theorem faultUnderlined {source : String} {mode : Mode} {fault : Fault}
    (failed : tokenize source mode = .error fault) (ascii : ∀ c ∈ source.toList, c.toNat < 128)
    (plain : escape ∉ source.toList) {name : String} (named : escape ∉ name.toList)
    (single : '\n' ∉ name.toList) (color : Bool) :
    let start := fault.span.start
    let stop := fault.span.stop
    ∃ line ∈ Line.split source.toList, line.start ≤ start ∧ stop ≤ line.stop ∧
      Placement.ofSpan source.toList fault.span = .within line ∧
      ∃ under hook label : String,
        let quote := expanded 0 line.trimmed
        let shown := quoting name line fault (.ofList quote) under hook label
        unpainted (render name source fault color).toList = (Text.unlines shown).toList ∧
        (∀ row ∈ shown, '\n' ∉ row.toList) ∧ (∀ c ∈ quote, cellWidth c = 1) ∧
        (start < stop → Underlined line fault.span under.toList hook.toList) ∧
        (stop ≤ start → ∀ c ∈ under.toList, c = ' ' ∨ c = '│') ∧
        Labels fault.context label ∧ (source.utf8ByteSize ≤ largestOffset → start < stop) := by
  intro start stop
  obtain ⟨some, before, slice, after, whole, unblank, first, last, small⟩ :=
    asciiSlice failed ascii
  obtain ⟨line, member, above, upto, placed, shown⟩ :=
    shownPlaced whole some unblank first last
  have message := raisedVisible (faultRaised failed)
  have lacks := rowsLacks (d := escape) (by decide) named (.inr plain) message
  have simple : ∀ c ∈ line.trimmed, Simple c := by
    intro c inside
    obtain ⟨front, back, parts, _⟩ := Line.partsSlice (Line.splitParts _) member
    refine ⟨ascii c ?_, Line.trimmedUnbroken member c inside⟩
    rw [parts]
    simp [line.trimmedPrefix.subset inside]
  have quoted := rowsQuoting name placed
  have quote : Row.text (sourceRow fault.span line) = String.ofList (expanded 0 line.trimmed) := by
    apply String.toList_inj.mp
    rw [sourceText simple, String.toList_ofList]
  rw [quote] at quoted
  refine ⟨line, member, above, upto, placed, Row.text (underlineRow fault.span line),
    Row.text (hookRow fault.span line), fault.context.label, ?_, ?_, expandedWidth simple 0, ?_,
    underlineEmpty, faultLabelled failed, ?_⟩
  · rw [render, unpaintedRows lacks, quoted]
  · rw [← quoted]
    intro text drawn
    obtain ⟨row, inside, rfl⟩ := List.mem_map.mp drawn
    exact Row.textLacks
      (rowsLacks (by decide) single (.inl (by decide)) message row inside)
  · intro filled
    have nonempty : slice ≠ [] := by
      rintro rfl
      rw [List.length_nil] at last
      omega
    obtain ⟨head, tail, shown⟩ := shown nonempty
    exact shownUnderlined shown simple nonempty
  · intro bounded
    have size := List.length_pos_iff.mpr (small bounded)
    omega

/- A fault on the second of three lines. The second tab is the third character of its line, so it is
two spaces, though the cells before it are five. -/
theorem tabbedFaultUnderlined :
    let source := "ab\r\n\t1\t\\x y \nz"
    let fault : Fault := ⟨⟨7, 9⟩, .escapedLetter 'x', .word 7⟩
    tokenize source .basic = .error fault ∧ (∀ c ∈ source.toList, c.toNat < 128) ∧
      escape ∉ source.toList ∧ escape ∉ "t".toList ∧ '\n' ∉ "t".toList ∧
      (∃ line ∈ Line.split source.toList,
        Placement.ofSpan source.toList fault.span = .within line ∧
          ∃ under hook label : String, Underlined line fault.span under.toList hook.toList ∧
            Labels fault.context label ∧ unpainted (render "t" source fault true).toList =
              (Text.unlines (quoting "t" line fault (.ofList (expanded 0 line.trimmed)) under
                hook label)).toList) ∧
      unpainted (render "t" source fault true).toList = (Text.unlines
        ["[L0002] Error: invalid escape: letter `x` cannot be escaped",
          "   ╭─[t:2:4]",
          "   │",
          " 2 │     1  \\x y",
          "   │        ─┬  ",
          "   │         ╰── in the word starting at offset 7",
          "   │ ",
          "   │ Help: letters are taken literally; drop the `\\`",
          "───╯"]).toList := by
  intro source fault
  have failed : tokenize source .basic = .error fault := by cbv
  have ascii : ∀ c ∈ source.toList, c.toNat < 128 := by simp [source]
  have plain : escape ∉ source.toList := by decide
  have named : escape ∉ "t".toList := by decide
  have single : '\n' ∉ "t".toList := by decide
  obtain ⟨line, member, _, _, placed, under, hook, label, text, _, _, underlined, _, labels, _⟩ :=
    faultUnderlined failed ascii plain named single true
  refine ⟨failed, ascii, plain, named, single, ⟨line, member, placed, under, hook, label,
    underlined (by decide), labels, text⟩, ?_⟩
  rw [renderText]
  simp only [unlinesCons, unlinesNil]
  decide +kernel

namespace Diagnostic

/-- As `expanded`, but with the stops of tabs counted in cells. -/
def aligned (cells : Nat) : List Char → List Char
  | [] => []
  | c :: rest =>
    if c = '\t' then
      let next := (cells / tabStop + 1) * tabStop
      List.replicate (next - cells) ' ' ++ aligned next rest
    else c :: aligned (cells + 1) rest

end Diagnostic

/- Behind two tabs a text starts at the seventh cell, which is no tab stop. -/
theorem tabsUnaligned :
    let fault : Fault := .danglingEscape ⟨2, 3⟩ .topLevel
    let drawn := ["[L0002] Error: invalid escape: dangling escape at end of input",
      "   ╭─[t:1:3]",
      "   │",
      " 1 │        \\",
      "   │        ┬  ",
      "   │        ╰── here",
      "   │ ",
      "   │ Help: remove the trailing `\\` or follow it with the character to escape",
      "───╯"]
    unpainted (render "t" "\t\t\\" fault false).toList = (Text.unlines drawn).toList ∧
      ¬ ∀ (source : String) (mode : Mode) (fault : Fault) (name : String) (color : Bool),
        tokenize source mode = .error fault → (∀ c ∈ source.toList, c.toNat < 128) →
        escape ∉ source.toList → escape ∉ name.toList → '\n' ∉ name.toList →
        ∃ line ∈ Line.split source.toList, line.start ≤ fault.span.start ∧
          fault.span.stop ≤ line.stop ∧ ∃ under hook label : String,
            unpainted (render name source fault color).toList =
              (Text.unlines (quoting name line fault (.ofList (aligned 0 line.trimmed)) under hook
                label)).toList := by
  intro fault drawn
  have shown : unpainted (render "t" "\t\t\\" fault false).toList = (Text.unlines drawn).toList := by
    rw [renderText]
    simp only [drawn, unlinesCons, unlinesNil]
    decide +kernel
  refine ⟨shown, ?_⟩
  intro aligns
  obtain ⟨line, member, _, _, under, hook, label, text⟩ :=
    aligns "\t\t\\" .basic fault "t" false (by decide +kernel) (by simp) (by decide) (by decide)
      (by decide)
  have lines : Line.split "\t\t\\".toList = [⟨0, 0, ['\t', '\t', '\\']⟩] := by decide +kernel
  rw [lines, List.mem_singleton] at member
  subst member
  -- The rows agree up to the quoted line, which is the fourth.
  rw [shown, quoting] at text
  simp only [drawn, List.cons_append, unlinesCons] at text
  have rest := (breakUnique (by decide +kernel) (by decide +kernel) text).2
  have rest := (breakUnique (by decide +kernel) (by decide +kernel) rest).2
  have rest := (breakUnique (by decide +kernel) (by decide +kernel) rest).2
  have quoted := (breakUnique (by decide +kernel) (by decide +kernel) rest).1
  exact absurd quoted (by decide +kernel)

end ModalLexer
