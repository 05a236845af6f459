import Mathlib.Algebra.GroupWithZero.Nat
import ModalLexer.Proofs.Paint

/-! Cells. A line of ASCII is quoted with spaces for its tabs, and each other character takes one
cell. The row below has a stroke under each character of a span, and under no other. -/
namespace ModalLexer.Diagnostic
open Text (Line isBreak)
open Unicode (isBlank cellWidth)

/-- A text with spaces for its tabs. A tab at a column reaches to the next multiple of the tab stop, and
columns count characters, not cells: two tabs in a row are four spaces and then three. -/
def expanded (column : Nat) : List Char → List Char
  | [] => []
  | c :: rest =>
    (if c = '\t' then List.replicate ((column / tabStop + 1) * tabStop - column) ' ' else [c]) ++
      expanded (column + 1) rest

theorem expandedAppend (column : Nat) (left right : List Char) :
    expanded column (left ++ right) =
      expanded column left ++ expanded (column + left.length) right := by
  induction left generalizing column with
  | nil => rfl
  | cons c left ih =>
    rw [List.cons_append, expanded, expanded, ih, List.append_assoc, List.length_cons,
      Nat.add_comm left.length, ← Nat.add_assoc]

theorem expandedTabless {text : List Char} (tabless : '\t' ∉ text) (column : Nat) :
    expanded column text = text := by
  induction text generalizing column with
  | nil => rfl
  | cons c text ih =>
    rw [List.mem_cons, not_or] at tabless
    rw [expanded, if_neg (Ne.symm tabless.1), ih tabless.2]
    rfl

def Simple (c : Char) : Prop := c.toNat < 128 ∧ isBreak c = false

theorem asciiCases {P : Char → Prop} (codes : ∀ n < 128, P (Char.ofNat n)) {c : Char}
    (ascii : c.toNat < 128) : P c := by
  have one := codes c.toNat ascii
  rwa [Char.ofNat_toNat] at one

theorem asciiWidth {c : Char} (ascii : c.toNat < 128) : cellWidth c = 1 :=
  asciiCases (P := fun c => cellWidth c = 1) (by decide +kernel) ascii

theorem simpleBlank {c : Char} (simple : Simple c) (blank : isBlank c = true) :
    c = ' ' ∨ c = '\t' := by
  have blanks := asciiCases
    (P := fun c => isBreak c = false → isBlank c = true → c = ' ' ∨ c = '\t') (by decide +kernel)
    simple.1
  exact blanks simple.2 blank

theorem expandedCons (column : Nat) (c : Char) (text : List Char) :
    expanded column (c :: text) = expanded column [c] ++ expanded (column + 1) text :=
  expandedAppend column [c] text

theorem drawnSimple {c : Char} (simple : Simple c) (column : Nat) :
    let drawn := Drawn.ofChar column c
    List.replicate drawn.copies drawn.char = expanded column [c] ∧
      drawn.cells = (expanded column [c]).length := by
  unfold Drawn.ofChar
  by_cases tab : c = '\t'
  · simp [tab, expanded, Drawn.copies]
  · have kept : expanded column [c] = [c] := by simp [expanded, tab]
    rw [kept, if_neg tab]
    by_cases blank : isBlank c = true
    · obtain rfl := (simpleBlank simple blank).resolve_right tab
      exact ⟨rfl, rfl⟩
    · have apart : c ≠ ' ' := by
        rintro rfl
        exact blank (by decide)
      simp [blank, Drawn.copies, apart, asciiWidth simple.1]

theorem expandedWidth {text : List Char} (simple : ∀ c ∈ text, Simple c) (column : Nat) :
    ∀ c ∈ expanded column text, cellWidth c = 1 := by
  induction text generalizing column with
  | nil => exact List.forall_mem_nil _
  | cons c text ih =>
    obtain ⟨first, rest⟩ := List.forall_mem_cons.mp simple
    rw [expanded, List.forall_mem_append]
    refine ⟨?_, ih rest (column + 1)⟩
    split
    · intro d member
      rw [List.eq_of_mem_replicate member]
      exact asciiWidth (by decide)
    · exact List.forall_mem_singleton.mpr (asciiWidth first.1)

def drawnFrom (column : Nat) (text : List Char) : List Drawn :=
  (text.zipIdx column).map fun entry => Drawn.ofChar entry.2 entry.1

theorem drawnFromAppend (column : Nat) (left right : List Char) :
    drawnFrom column (left ++ right) =
      drawnFrom column left ++ drawnFrom (column + left.length) right := by
  rw [drawnFrom, List.zipIdx_append, List.map_append]
  rfl

theorem drawnFromCons (column : Nat) (c : Char) (text : List Char) :
    drawnFrom column (c :: text) = Drawn.ofChar column c :: drawnFrom (column + 1) text := rfl

theorem drawnFromLength (column : Nat) (text : List Char) :
    (drawnFrom column text).length = text.length := by
  simp [drawnFrom]

variable {s : Span} {line : Line} {text : List Char}

theorem drawnText (simple : ∀ c ∈ text, Simple c) (column : Nat) :
    ((drawnFrom column text).flatMap fun drawn => List.replicate drawn.copies drawn.char) =
      expanded column text := by
  induction text generalizing column with
  | nil => rfl
  | cons c text ih =>
    obtain ⟨first, rest⟩ := List.forall_mem_cons.mp simple
    rw [drawnFromCons, List.flatMap_cons, ih rest, expandedCons column c,
      (drawnSimple first column).1]

theorem drawnCells (simple : ∀ c ∈ text, Simple c) (column : Nat) :
    ((drawnFrom column text).map Drawn.cells).sum = (expanded column text).length := by
  induction text generalizing column with
  | nil => rfl
  | cons c text ih =>
    obtain ⟨first, rest⟩ := List.forall_mem_cons.mp simple
    rw [drawnFromCons, List.map_cons, List.sum_cons, ih rest, expandedCons column c,
      List.length_append, (drawnSimple first column).2]

theorem drawnSingle (simple : ∀ c ∈ text, Simple c) (unblank : ∀ c ∈ text, isBlank c = false)
    (column : Nat) : (drawnFrom column text).map Drawn.cells = List.replicate text.length 1 := by
  induction text generalizing column with
  | nil => rfl
  | cons c text ih =>
    obtain ⟨first, rest⟩ := List.forall_mem_cons.mp simple
    obtain ⟨visible, more⟩ := List.forall_mem_cons.mp unblank
    have noTab : c ≠ '\t' := by
      rintro rfl
      exact absurd visible (by decide)
    rw [drawnFromCons, List.map_cons, ih rest more, (drawnSimple first column).2,
      expandedTabless (by simpa using Ne.symm noTab)]
    rfl

theorem sourceText (simple : ∀ c ∈ line.trimmed, Simple c) :
    (Row.text (sourceRow s line)).toList = expanded 0 line.trimmed := by
  have one (entry : Drawn × Nat) : (List.replicate entry.1.copies
      (ink (if isMarked s line entry.2 then Hue.mark else Hue.source)
        (String.singleton entry.1.char))).flatMap (fun i => i.text.toList) =
      List.replicate entry.1.copies entry.1.char := by
    simp [List.flatMap_replicate, ink]
  have whole := List.flatMap_map Prod.fst (fun drawn => List.replicate drawn.copies drawn.char)
    (drawnLine line).zipIdx
  rw [List.zipIdx_map_fst] at whole
  rw [Row.textList, sourceRow, List.flatMap_assoc, ← drawnText simple]
  simp only [one]
  exact whole.symm

structure Shown (line : Line) (s : Span) (head slice tail : List Char) : Prop where
  text : line.trimmed = head ++ (slice ++ tail)
  start : line.start + head.length = s.start
  stop : s.start + slice.length = s.stop
  unblank : ∀ c ∈ slice, isBlank c = false

inductive Underlined (line : Line) (s : Span) : List Char → List Char → Prop where
  | under {head slice tail : List Char} {left right room : Nat} (shown : Shown line s head slice tail)
      (quote : expanded 0 line.trimmed =
        expanded 0 head ++ (slice ++ expanded (head.length + slice.length) tail))
      (cells : left + 1 + right = slice.length) :
      Underlined line s
        (List.replicate (expanded 0 head).length ' ' ++ (List.replicate left '─' ++
          '┬' :: (List.replicate right '─' ++ List.replicate room ' ')))
        (List.replicate (expanded 0 head).length ' ' ++ (List.replicate left ' ' ++
          '╰' :: (List.replicate right '─' ++ List.replicate room '─')))

section

variable {head slice tail : List Char}

theorem cellsAppend {front inner back : List Drawn} (drawn : drawnLine line = front ++ (inner ++ back))
    (more : Nat) : ∃ beyond, columnCells line (front.length + (inner.length + more)) =
      front.map Drawn.cells ++ (inner.map Drawn.cells ++ beyond) := by
  refine ⟨(back.take more).map Drawn.cells ++ List.replicate (front.length + (inner.length + more) -
    (front ++ (inner ++ back.take more)).length) 1, ?_⟩
  rw [columnCells, drawn, List.take_length_add_append, List.take_length_add_append, List.rightpad,
    List.length_map, List.map_append, List.map_append, List.append_assoc, List.append_assoc]

theorem shownCells (shown : Shown line s head slice tail) (simple : ∀ c ∈ line.trimmed, Simple c) :
    ∃ before beyond, columnCells line (s.stop + 2 - line.start) =
        before ++ (List.replicate slice.length 1 ++ beyond) ∧
      before.length = head.length ∧ before.sum = (expanded 0 head).length := by
  rw [shown.text, List.forall_mem_append, List.forall_mem_append] at simple
  obtain ⟨first, inner, _⟩ := simple
  have drawn : drawnLine line = drawnFrom 0 head ++ (drawnFrom head.length slice ++
      drawnFrom (head.length + slice.length) tail) := by
    rw [drawnLine, ← drawnFrom, shown.text, drawnFromAppend, drawnFromAppend, Nat.zero_add]
  obtain ⟨beyond, cells⟩ := cellsAppend drawn 2
  rw [drawnFromLength, drawnFromLength, drawnSingle inner shown.unblank] at cells
  have count : s.stop + 2 - line.start = head.length + (slice.length + 2) := by
    have start := shown.start
    have stop := shown.stop
    omega
  rw [count]
  exact ⟨_, beyond, cells, by rw [List.length_map, drawnFromLength], drawnCells first 0⟩

theorem markedShown (shown : Shown line s head slice tail) (column : Nat) :
    isMarked s line column = true ↔
      head.length ≤ column ∧ column < head.length + slice.length := by
  have start := shown.start
  have stop := shown.stop
  rw [isMarked, decide_eq_true_eq]
  omega

/-- The columns of a row below a line, each with its cells: some in front of a span, `left + 1 + right`
of one cell each in it, and some behind it. -/
def zones (before beyond : List Nat) (left right : Nat) : List (Nat × Nat) :=
  (before ++ (List.replicate left 1 ++ (1 :: (List.replicate right 1 ++ beyond)))).zipIdx

theorem shownZones (shown : Shown line s head slice tail) (simple : ∀ c ∈ line.trimmed, Simple c)
    (filled : slice ≠ []) : ∃ before beyond left right,
      markedCells s line = zones before beyond left right ∧ left + 1 + right = slice.length ∧
        hookColumn s line = before.length + left ∧ before.length = head.length ∧
        before.sum = (expanded 0 head).length := by
  obtain ⟨before, beyond, cells, length, sum⟩ := shownCells shown simple
  have size := List.length_pos_iff.mpr filled
  have start := shown.start
  have stop := shown.stop
  obtain ⟨right, parts⟩ : ∃ right, slice.length / 2 + 1 + right = slice.length :=
    ⟨slice.length - (slice.length / 2 + 1), by omega⟩
  have middle : List.replicate slice.length 1 = List.replicate (slice.length / 2) 1 ++
      (1 :: List.replicate right 1) := by
    rw [← List.replicate_succ, List.replicate_append_replicate]
    congr 1
    omega
  refine ⟨before, beyond, slice.length / 2, right, ?_, parts, ?_, length, sum⟩
  · rw [markedCells, cells, middle, List.append_assoc]
    rfl
  · rw [hookColumn]
    omega

theorem textAppend (left right : Row) :
    Row.text (left ++ right) = Row.text left ++ Row.text right := by
  rw [Row.text, List.map_append, String.join_append]
  rfl

theorem textCons (i : Ink) (row : Row) : Row.text (i :: row) = i.text ++ Row.text row := by
  rw [Row.text, List.map_cons, String.join_cons]
  rfl

theorem columnText {i : Ink} {c : Char} (one : i.text.toList = [c]) (cells : Nat) :
    (Row.text (columnRow cells i i)).toList = List.replicate cells c := by
  have same : columnRow cells i i = List.replicate cells i := by
    cases cells <;> rfl
  rw [same, Row.textList, List.flatMap_replicate, one]
  simp

theorem zoneText {cells : List Nat} {column : Nat} {draw : Nat × Nat → Row} {c : Char}
    (same : ∀ entry ∈ cells.zipIdx column,
      (Row.text (draw entry)).toList = List.replicate entry.1 c) :
    (Row.text ((cells.zipIdx column).flatMap draw)).toList = List.replicate cells.sum c := by
  induction cells generalizing column with
  | nil => rfl
  | cons count cells ih =>
    rw [List.zipIdx_cons, List.forall_mem_cons] at same
    rw [List.zipIdx_cons, List.flatMap_cons, textAppend, String.toList_append, same.1, ih same.2,
      List.sum_cons, List.replicate_append_replicate]

theorem zonesText {draw : Nat × Nat → Row} {char : Nat → Char} {mark : Char}
    {before beyond : List Nat} {left right : Nat}
    (columns : ∀ cells column, column ≠ before.length + left →
      (Row.text (draw (cells, column))).toList = List.replicate cells (char column))
    (hook : (Row.text (draw (1, before.length + left))).toList = [mark])
    {front inner later back : Char} (fronts : ∀ column < before.length, char column = front)
    (inners : ∀ column, before.length ≤ column → column < before.length + left →
      char column = inner)
    (laters : ∀ column, before.length + left < column →
      column < before.length + (left + 1 + right) → char column = later)
    (backs : ∀ column, before.length + (left + 1 + right) ≤ column → char column = back) :
    (Row.text ((zones before beyond left right).flatMap draw)).toList =
      List.replicate before.sum front ++ (List.replicate left inner ++
        mark :: (List.replicate right later ++ List.replicate beyond.sum back)) := by
  have zone {cells : List Nat} {column : Nat} {c : Char}
      (same : ∀ k, column ≤ k → k < column + cells.length → k ≠ before.length + left ∧ char k = c) :
      (Row.text ((cells.zipIdx column).flatMap draw)).toList = List.replicate cells.sum c := by
    apply zoneText
    rintro ⟨count, k⟩ member
    obtain ⟨above, below, _⟩ := List.mem_zipIdx member
    obtain ⟨apart, drawn⟩ := same k above below
    rw [columns count k apart, drawn]
  have ones {count column : Nat} {c : Char}
      (same : ∀ k, column ≤ k → k < column + count → k ≠ before.length + left ∧ char k = c) :
      (Row.text (((List.replicate count 1).zipIdx column).flatMap draw)).toList =
        List.replicate count c := by
    rw [zone (by simpa using same), List.sum_replicate_nat, Nat.mul_one]
  have one : (Row.text (before.zipIdx.flatMap draw)).toList = List.replicate before.sum front :=
    zone fun k _ below => ⟨by omega, fronts k (by omega)⟩
  simp only [zones, List.zipIdx_append, List.zipIdx_cons, List.flatMap_append, List.flatMap_cons,
    textAppend, String.toList_append, List.length_replicate, Nat.zero_add]
  rw [hook, one,
    ones fun k above below => ⟨by omega, inners k above below⟩,
    ones fun k above below => ⟨by omega, laters k (by omega) (by omega)⟩,
    zone fun k above _ => ⟨by omega, backs k (by omega)⟩]
  rfl

theorem underlineDrawn (s : Span) (line : Line) : ∃ draw : Nat × Nat → Row,
    underlineRow s line = (markedCells s line).flatMap draw ∧
      (∀ cells column, column ≠ hookColumn s line → (Row.text (draw (cells, column))).toList =
        List.replicate cells (if isMarked s line column then '─' else ' ')) ∧
      (isMarked s line (hookColumn s line) = true →
        (Row.text (draw (1, hookColumn s line))).toList = ['┬']) := by
  refine ⟨_, rfl, ?_, ?_⟩
  · intro cells column apart
    dsimp only
    rw [if_neg apart]
    cases isMarked s line column with
    | true => exact columnText rfl cells
    | false => exact columnText rfl cells
  · intro marked
    simp only [marked, if_true]
    rfl

theorem hookDrawn (s : Span) (line : Line) : ∃ draw : Nat × Nat → Row,
    hookRow s line = (markedCells s line).flatMap draw ∧
      (∀ cells column, column ≠ hookColumn s line → (Row.text (draw (cells, column))).toList =
        List.replicate cells (if hookColumn s line < column then '─' else ' ')) ∧
      (Row.text (draw (1, hookColumn s line))).toList = ['╰'] := by
  refine ⟨_, rfl, ?_, ?_⟩
  · intro cells column apart
    dsimp only
    rw [if_neg apart]
    split
    · exact columnText rfl cells
    · exact columnText rfl cells
  · simp only [if_true]
    rfl

theorem shownUnderlined (shown : Shown line s head slice tail)
    (simple : ∀ c ∈ line.trimmed, Simple c) (filled : slice ≠ []) :
    Underlined line s (Row.text (underlineRow s line)).toList (Row.text (hookRow s line)).toList := by
  obtain ⟨before, beyond, left, right, cells, parts, hook, length, sum⟩ :=
    shownZones shown simple filled
  have inside := markedShown shown
  rw [← length, ← parts] at inside
  have quote : expanded 0 line.trimmed =
      expanded 0 head ++ (slice ++ expanded (head.length + slice.length) tail) := by
    have tabless : '\t' ∉ slice := fun tab => absurd (shown.unblank _ tab) (by decide)
    rw [shown.text, expandedAppend, expandedAppend, expandedTabless tabless, Nat.zero_add]
  have strokes : (Row.text (underlineRow s line)).toList =
      List.replicate (expanded 0 head).length ' ' ++ (List.replicate left '─' ++
        '┬' :: (List.replicate right '─' ++ List.replicate beyond.sum ' ')) := by
    obtain ⟨draw, row, columns, mark⟩ := underlineDrawn s line
    rw [hook] at columns mark
    rw [row, cells, zonesText columns (mark ((inside _).mpr (by omega))), sum]
    · exact fun k below => if_neg (by rw [inside]; omega)
    · exact fun k above below => if_pos (by rw [inside]; omega)
    · exact fun k above below => if_pos (by rw [inside]; omega)
    · exact fun k above => if_neg (by rw [inside]; omega)
  have label : (Row.text (hookRow s line)).toList =
      List.replicate (expanded 0 head).length ' ' ++ (List.replicate left ' ' ++
        '╰' :: (List.replicate right '─' ++ List.replicate beyond.sum '─')) := by
    obtain ⟨draw, row, columns, mark⟩ := hookDrawn s line
    rw [hook] at columns mark
    rw [row, cells, zonesText columns mark, sum]
    · exact fun k below => if_neg (by omega)
    · exact fun k above below => if_neg (by omega)
    · exact fun k above below => if_pos (by omega)
    · exact fun k above => if_pos (by omega)
  rw [strokes, label]
  exact .under shown quote parts

theorem underlineEmpty (empty : s.stop ≤ s.start) :
    ∀ c ∈ (Row.text (underlineRow s line)).toList, c = ' ' ∨ c = '│' := by
  have unmarked (column : Nat) : isMarked s line column = false := by
    rw [isMarked, decide_eq_false_iff_not]
    omega
  intro c member
  rw [Row.textList, List.mem_flatMap] at member
  obtain ⟨i, inside, member⟩ := member
  rw [underlineRow, List.mem_flatMap] at inside
  obtain ⟨entry, _, inside⟩ := inside
  simp only [unmarked, Bool.false_eq_true, if_false] at inside
  split at inside
  · rcases columnInk inside with rfl | rfl
    · exact .inr (List.mem_singleton.mp member)
    · exact .inl (List.mem_singleton.mp member)
  · rcases columnInk inside with rfl | rfl
    · exact .inl (List.mem_singleton.mp member)
    · exact .inl (List.mem_singleton.mp member)

end

end ModalLexer.Diagnostic
