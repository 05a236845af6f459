import ModalLexer.Proofs.Call
import ModalLexer.Proofs.Paint
import ModalLexer.Proofs.Stream

/-! Colour of diagnostics. Without colour all paint is left off but that of the marks, which point at
the span of a fault and are red. -/
namespace ModalLexer
open Text (Line)

inductive Raised (source : String) : Fault → Prop where
  | request {s fault after} (reached : Session.Reached source s)
      (asked : s.next = (.error fault, after)) : Raised source fault
  | override {s fault after} (reached : Session.Reached source s)
      (asked : s.setMode none = (.error fault, after)) : Raised source fault

theorem leadReached {source : String} {s u : Session} {tokens : List Token}
    (lead : Session.Lead s tokens u) (reached : Session.Reached source s) :
    Session.Reached source u := by
  induction lead with
  | nil => exact reached
  | @cons s t after tokens u asked more later ih =>
    have next : (s.answer .next).2 = after := congrArg Prod.snd (Session.yieldsNext asked)
    exact ih (next ▸ .call reached .next)

theorem faultRaised {source : String} {mode : Mode} {fault : Fault}
    (failed : tokenize source mode = .error fault) : Raised source fault := by
  obtain ⟨tokens, u, after, lead, asked⟩ := Session.faultLead rfl failed
  exact .request (leadReached lead (.start mode)) (Session.yieldsNext asked)

theorem obstacleVisible {text : List Char} {snag : Snag} (obstacle : Obstacle text snag)
    (s : Session) : Text.Visible (s.reject snag).1.cause.message.toList := by
  cases obstacle with
  | @dangling glyphs =>
    have cause : (s.reject (.danglingEscape (Glyph.lexeme glyphs))).1.cause = .danglingEscape := by
      simp only [Session.reject]
      split <;> rfl
    rw [cause]
    decide +kernel
  | letter _ escaped =>
    refine Diagnostic.visibleJoin (Diagnostic.visibleJoin (by decide +kernel) ?_) (by decide +kernel)
    rw [String.toList_singleton, Text.visibleOne]
    exact Diagnostic.letterVisible escaped
  | overflow _ inside =>
    refine Diagnostic.visibleJoin (Diagnostic.visibleJoin (by decide +kernel) ?_) (by decide +kernel)
    intro c member
    rw [String.toList_ofList] at member
    exact Diagnostic.numeralVisible (inside c member)

theorem raisedVisible {source : String} {fault : Fault} (raised : Raised source fault) :
    Text.Visible fault.cause.message.toList := by
  have late : Text.Visible Cause.exhausted.message.toList := by decide +kernel
  have modeless : Text.Visible Cause.missingMode.message.toList := by decide +kernel
  cases raised with
  | request reached asked =>
    cases Session.nextExact.mp asked with
    | exhausted => exact late
    | fault _ _ _ _ _ obstacle => exact obstacleVisible obstacle _
  | override reached asked =>
    cases asked
    exact modeless

namespace Diagnostic

def Placement.Marked (s : Span) : Placement → Prop
  | outside | beyond _ => False
  | within line =>
    s.start < s.stop ∨ ∃ entry ∈ markedCells s line, s.start ≤ line.start + entry.2 ∧ entry.1 ≠ 0
  | across _ _ _ => True

instance (s : Span) : DecidablePred (Placement.Marked s)
  | .outside | .beyond _ => inferInstanceAs (Decidable False)
  | .within line => inferInstanceAs (Decidable (_ ∨ ∃ entry ∈ markedCells s line, _))
  | .across _ _ _ => inferInstanceAs (Decidable True)

def Row.Pointing (row : Row) : Prop := ∃ i ∈ row, i.hue = some .mark

theorem inkEscape {i : Ink} (plain : escape ∉ i.text.toList) :
    escape ∈ (i.render false).toList ↔ i.hue = some .mark := by
  cases i with
  | mk hue text =>
    cases hue with
    | none => simpa [Ink.render] using plain
    | some hue =>
      cases hue with
      | mark => simp [Ink.render, Hue.code?, paint, escape]
      | heading | frame | gutter | source | help => simpa [Ink.render, Hue.code?] using plain

theorem escapeShown {name source : String} {f : Fault}
    (lacks : ∀ row ∈ rows name source f, row.Lacks escape) :
    escape ∈ (render name source f false).toList ↔ ∃ row ∈ rows name source f, row.Pointing := by
  rw [renderText, List.mem_flatMap]
  refine exists_congr fun row => and_congr_right fun member => ?_
  rw [List.mem_append, List.mem_flatMap, or_iff_left (by decide)]
  exact exists_congr fun i => and_congr_right fun inside => inkEscape (lacks row member i inside)

theorem pointingAppend {left right : Row} :
    Row.Pointing (left ++ right) ↔ left.Pointing ∨ right.Pointing := by
  simp only [Row.Pointing, List.mem_append, or_and_right, exists_or]

theorem pointingCons {i : Ink} {row : Row} :
    Row.Pointing (i :: row) ↔ i.hue = some .mark ∨ row.Pointing := by
  simp only [Row.Pointing, List.mem_cons, or_and_right, exists_or, exists_eq_left]

theorem pointingNil : ¬ Row.Pointing [] := by simp [Row.Pointing]

theorem marginBlank (width : Nat) : ¬ (margin width).Pointing := by
  simp [margin, bare, ink, pointingCons, pointingNil]

theorem numberedBlank (width : Nat) (line : Line) : ¬ (numberedMargin width line).Pointing := by
  simp [numberedMargin, bare, ink, pointingCons, pointingNil]

theorem headingBlank (f : Fault) : ¬ (headingRow f).Pointing := by
  simp [headingRow, bare, ink, pointingCons, pointingNil]

theorem locationBlank (width : Nat) (name : String) (line : Line) (start : Nat) :
    ¬ (locationRow width name line start).Pointing := by
  simp [locationRow, bare, ink, pointingCons, pointingNil]

theorem helpBlank {start : Row} (blank : ¬ start.Pointing) (f : Fault) :
    ∀ row ∈ helpRows start f, ¬ row.Pointing := by
  unfold helpRows
  cases f.cause.hint with
  | none => exact List.forall_mem_nil _
  | some hint => simp [pointingAppend, pointingCons, pointingNil, blank, bare, ink]

variable {s : Span} {line : Line}

theorem copiesPositive (column : Nat) (c : Char) : 0 < (Drawn.ofChar column c).copies := by
  unfold Drawn.ofChar Drawn.copies
  split
  · have further : column < (column / tabStop + 1) * tabStop := by
      rw [Nat.add_one_mul]
      exact Nat.lt_div_mul_add (by decide)
    rw [if_pos rfl]
    exact Nat.sub_pos_of_lt further
  · split
    · exact Nat.one_pos
    · next unblank =>
      have shown : c ≠ ' ' := by
        rintro rfl
        exact unblank blankSpace
      rw [if_neg shown]
      exact Nat.one_pos

theorem drawnLength (line : Line) : (drawnLine line).length = line.trimmed.length := by
  simp [drawnLine]

theorem pointingFlatMap {α : Type} {entries : List α} {draw : α → Row} :
    Row.Pointing (entries.flatMap draw) ↔ ∃ entry ∈ entries, (draw entry).Pointing := by
  simp only [Row.Pointing, List.mem_flatMap]
  constructor
  · rintro ⟨i, ⟨entry, member, inside⟩, hue⟩
    exact ⟨entry, member, i, inside, hue⟩
  · rintro ⟨entry, member, i, inside, hue⟩
    exact ⟨i, ⟨entry, member, inside⟩, hue⟩

theorem sourcePointing : (sourceRow s line).Pointing ↔
    ∃ column < line.trimmed.length, isMarked s line column = true := by
  have copied (count : Nat) (text : String) (column : Nat) : Row.Pointing (List.replicate count
      (ink (if isMarked s line column then Hue.mark else Hue.source) text)) ↔
      count ≠ 0 ∧ isMarked s line column = true := by
    constructor
    · rintro ⟨i, member, hue⟩
      obtain ⟨some, rfl⟩ := List.mem_replicate.mp member
      refine ⟨some, Bool.not_eq_false _ ▸ fun unmarked => ?_⟩
      simp [ink, unmarked] at hue
    · rintro ⟨some, marked⟩
      exact ⟨_, List.mem_replicate.mpr ⟨some, rfl⟩, by simp [ink, marked]⟩
  rw [sourceRow, pointingFlatMap]
  simp only [copied]
  constructor
  · rintro ⟨⟨drawn, column⟩, member, _, marked⟩
    have below := (List.mem_zipIdx' member).1
    rw [drawnLength] at below
    exact ⟨column, below, marked⟩
  · rintro ⟨column, below, marked⟩
    have here : column < (drawnLine line).length := by rwa [drawnLength]
    refine ⟨((drawnLine line)[column], column), ?_, ?_, marked⟩
    · exact List.mem_zipIdx_iff_getElem?.mpr (List.getElem?_eq_getElem here)
    · simp only [drawnLine, List.getElem_map, List.getElem_zipIdx]
      exact Nat.ne_of_gt (copiesPositive _ _)

theorem columnPointing {head tail : Ink} {cells : Nat} (first : head.hue = some .mark) :
    (columnRow cells head tail).Pointing ↔ cells ≠ 0 := by
  cases cells with
  | zero => simpa [columnRow] using pointingNil
  | succ more => simp [columnRow, pointingCons, first]

theorem columnBlank {head tail : Ink} {cells : Nat} (first : head.hue ≠ some .mark)
    (rest : tail.hue ≠ some .mark) : ¬ (columnRow cells head tail).Pointing := by
  rintro ⟨i, member, hue⟩
  rcases columnInk member with rfl | rfl
  · exact first hue
  · exact rest hue

theorem hookPointing : (hookRow s line).Pointing ↔
    ∃ entry ∈ markedCells s line, hookColumn s line ≤ entry.2 ∧ entry.1 ≠ 0 := by
  rw [hookRow, pointingFlatMap]
  refine exists_congr fun entry => and_congr_right fun _ => ?_
  split
  · next same => rw [columnPointing rfl, same, and_iff_right (Nat.le_refl _)]
  · next other =>
    split
    · next behind => rw [columnPointing rfl, and_iff_right (Nat.le_of_lt behind)]
    · next before =>
      have above : ¬ hookColumn s line ≤ entry.2 := by omega
      simp [above, columnBlank, bare]

theorem underlinePointing (empty : s.stop ≤ s.start) (pointing : (underlineRow s line).Pointing) :
    ∃ entry ∈ markedCells s line, entry.2 = hookColumn s line ∧ entry.1 ≠ 0 := by
  rw [underlineRow, pointingFlatMap] at pointing
  obtain ⟨entry, member, pointing⟩ := pointing
  have unmarked : isMarked s line entry.2 = false := by
    rw [isMarked, decide_eq_false_iff_not]
    omega
  simp only [unmarked, Bool.false_eq_true, if_false] at pointing
  split at pointing
  · next same => exact ⟨entry, member, same, (columnPointing rfl).mp pointing⟩
  · exact absurd pointing (columnBlank (by simp [bare]) (by simp [bare]))

theorem cellsBehind {count column : Nat} (behind : line.trimmed.length ≤ column)
    (inside : column < count) : (columnCells line count)[column]? = some 1 := by
  have length : (((drawnLine line).take count).map Drawn.cells).length = line.trimmed.length := by
    rw [List.length_map, List.length_take, drawnLength]
    omega
  rw [columnCells, List.rightpad, List.getElem?_append_right (by omega), length,
    List.getElem?_replicate, if_pos (by omega)]

theorem withinPointing (first : line.start ≤ s.start) :
    (sourceRow s line).Pointing ∨ (underlineRow s line).Pointing ∨ (hookRow s line).Pointing ↔
      Placement.Marked s (.within line) := by
  have hook (empty : s.stop ≤ s.start) : hookColumn s line = s.start - line.start := by
    rw [hookColumn]
    omega
  rw [Placement.Marked]
  constructor
  · intro pointing
    by_cases filled : s.start < s.stop
    · exact .inl filled
    · have empty := Nat.le_of_not_lt filled
      rcases pointing with source | underline | label
      · obtain ⟨column, _, marked⟩ := sourcePointing.mp source
        rw [isMarked, decide_eq_true_eq] at marked
        omega
      · obtain ⟨entry, member, same, drawn⟩ := underlinePointing empty underline
        exact .inr ⟨entry, member, by rw [same, hook empty]; omega, drawn⟩
      · obtain ⟨entry, member, above, drawn⟩ := hookPointing.mp label
        rw [hook empty] at above
        exact .inr ⟨entry, member, by omega, drawn⟩
  · intro marked
    by_cases filled : s.start < s.stop
    · by_cases shown : s.start - line.start < line.trimmed.length
      · refine .inl (sourcePointing.mpr ⟨_, shown, ?_⟩)
        rw [isMarked, decide_eq_true_eq]
        omega
      · -- The text is cut off before the span, and the column of its stop is there all the same.
        refine .inr (.inr (hookPointing.mpr ⟨(1, s.stop - line.start), ?_, ?_, Nat.one_ne_zero⟩))
        · exact List.mem_zipIdx_iff_getElem?.mpr (cellsBehind (by omega) (by omega))
        · rw [hookColumn]
          omega
    · obtain ⟨entry, member, above, drawn⟩ := marked.resolve_left filled
      refine .inr (.inr (hookPointing.mpr ⟨entry, member, ?_, drawn⟩))
      rw [hook (Nat.le_of_not_lt filled)]
      omega

theorem bodyPointing (width : Nat) (text : List Char) (f : Fault) {placement : Placement}
    (first : ∀ line, placement.first? = some line → line.start ≤ f.span.start) :
    (∃ row ∈ bodyRows width text f placement, row.Pointing) ↔ placement.Marked f.span := by
  have help := helpBlank (marginBlank width) f
  cases placement with
  | outside => simp [bodyRows, Placement.Marked]
  | beyond line =>
    simp only [bodyRows, Placement.Marked, iff_false, not_exists, not_and]
    rw [List.forall_mem_append, List.forall_mem_singleton]
    exact ⟨marginBlank width, help⟩
  | within line =>
    rw [← withinPointing (first line rfl)]
    have label : ¬ Row.Pointing [bare (" " ++ f.context.label)] := by
      simp [bare, pointingCons, pointingNil]
    have advice : ¬ ∃ row ∈ helpRows (margin width) f, row.Pointing := by
      rintro ⟨row, member, pointing⟩
      exact help row member pointing
    simp only [bodyRows, List.mem_append, or_and_right, exists_or, List.mem_cons, exists_eq_left,
      List.not_mem_nil, or_false, pointingAppend, advice, label, numberedBlank, marginBlank,
      false_or]
  | across first last past =>
    rw [bodyRows, acrossRows, List.append_assoc, List.append_assoc, List.singleton_append]
    refine iff_of_true ⟨_, List.mem_cons_self, ?_⟩ trivial
    simp [pointingAppend, pointingCons, arrow, ink]

theorem placementFirst {text : List Char} (shown : (Placement.ofSpan text s).first? = some line) :
    line.start ≤ s.start := by
  unfold Placement.ofSpan at shown
  dsimp only at shown
  split at shown
  · next first last found _ =>
    have above := (Line.atFound found).2.1
    split at shown
    · split at shown <;> cases shown <;> exact above
    · cases shown
      exact above
  · contradiction

theorem rowsPointing (name source : String) (f : Fault) :
    (∃ row ∈ rows name source f, row.Pointing) ↔
      (Placement.ofSpan source.toList f.span).Marked f.span := by
  have first : ∀ line, (Placement.ofSpan source.toList f.span).first? = some line →
      line.start ≤ f.span.start := fun _ => placementFirst
  unfold rows
  dsimp only
  generalize Placement.ofSpan source.toList f.span = placement at first ⊢
  have framed (line : Line) (width : Nat) :
      (∃ row ∈ [headingRow f, locationRow width name line f.span.start,
        [bare (spaces (width + 2)), ink .frame "│"]] ++ bodyRows width source.toList f placement ++
        [[ink .frame (String.ofList (List.replicate (width + 2) '─') ++ "╯")]], row.Pointing) ↔
      placement.Marked f.span := by
    rw [← bodyPointing width source.toList f first]
    have opening : ¬ Row.Pointing [bare (spaces (width + 2)), ink .frame "│"] := by
      simp [bare, ink, pointingCons, pointingNil]
    have closing : ¬ Row.Pointing
        [ink .frame (String.ofList (List.replicate (width + 2) '─') ++ "╯")] := by
      simp [ink, pointingCons, pointingNil]
    simp only [List.mem_append, or_and_right, exists_or, List.mem_cons, exists_eq_left,
      List.not_mem_nil, or_false, headingBlank, locationBlank, opening, closing, false_or]
  cases placement with
  | outside => simp [Placement.first?, headingBlank, Placement.Marked]
  | beyond line | within line => exact framed line _
  | across line last past => exact framed line _

end Diagnostic

open Diagnostic

/-- Without colour a diagnostic is not free of colour sequences: the marks that point at a span are
red all the same. Wherever something points at it, there are such sequences, and wherever some of its
characters are on the lines of the source, something does. Apart from the sequences, which can be
taken off, a diagnostic is the same plain text with colour and without. -/
theorem marksStayRed {source : String} {fault : Fault} (raised : Raised source fault) {name : String}
    (named : escape ∉ name.toList) (plain : escape ∉ source.toList) :
    let shown := fun color => (render name source fault color).toList
    (∃ text, escape ∉ text ∧ ∀ color, unpainted (shown color) = text) ∧
      (escape ∈ shown false ↔ (Placement.ofSpan source.toList fault.span).Marked fault.span) ∧
      (fault.span.start < fault.span.stop → fault.span.stop ≤ source.toList.length →
        escape ∈ shown false) := by
  intro shown
  have lacks := rowsLacks (by decide) named (.inr plain) (raisedVisible raised)
  have pointing : escape ∈ shown false ↔ _ := (escapeShown lacks).trans (rowsPointing _ _ _)
  refine ⟨⟨(Text.unlines ((rows name source fault).map Row.text)).toList, ?_, unpaintedRows lacks⟩,
    pointing, fun filled inside => ?_⟩
  · rw [Text.unlines, String.toList_join, List.mem_flatMap]
    rintro ⟨_, member, inside⟩
    simp only [List.map_map, List.mem_map] at member
    obtain ⟨row, shown, rfl⟩ := member
    rw [Function.comp, String.toList_append, List.mem_append] at inside
    exact inside.elim (Row.textLacks (lacks row shown)) (by decide)
  · rw [pointing]
    have lies := spanLies source.toList (Nat.le_of_lt filled)
    generalize Placement.ofSpan source.toList fault.span = placement at lies ⊢
    cases lies with
    | outside off =>
      rcases off with bare | far
      · rw [bare, List.length_nil] at inside
        omega
      · omega
    | beyond first past => omega
    | within first _ => exact .inl filled
    | across first upto => trivial

theorem requestStaysRed : let fault := Fault.missingMode 1
    Raised "a\n" fault ∧ escape ∉ "t".toList ∧ escape ∉ "a\n".toList ∧
      escape ∈ (render "t" "a\n" fault false).toList ∧
      ∃ text, escape ∉ text ∧ ∀ color, unpainted (render "t" "a\n" fault color).toList = text := by
  intro fault
  have place : Fault.missingMode (clampOffset (Session.start "a\n" .basic).next.2.pos) = fault := by
    decide +kernel
  have raised : Raised "a\n" fault := place ▸ .override (.call (.start .basic) .next) rfl
  have named : escape ∉ "t".toList := by decide
  have plain : escape ∉ "a\n".toList := by decide
  obtain ⟨alike, pointing, _⟩ := marksStayRed raised named plain
  refine ⟨raised, named, plain, pointing.mpr ?_, alike⟩
  decide +kernel

theorem loneMarkRed : let fault : Fault := ⟨⟨0, 1⟩, .danglingEscape, .topLevel⟩
    Raised "\\" fault ∧ escape ∉ "t".toList ∧ escape ∉ "\\".toList ∧
      escape ∈ (render "t" "\\" fault false).toList := by
  intro fault
  have met : (Session.start "\\" .basic).next.1 = .error fault := by decide +kernel
  have raised : Raised "\\" fault := .request (.start .basic) (Prod.ext met rfl)
  refine ⟨raised, by decide, by decide, ?_⟩
  rw [renderText]
  decide +kernel

end ModalLexer
