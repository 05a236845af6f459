import ModalLexer.Diagnostic.Ink
import ModalLexer.Span
import ModalLexer.Text.Lines
import ModalLexer.Unicode.Width

/-! Drawings: the text of a line in terminal cells, and the marks below it. The text and the marks
count their columns alike, so a mark stands under the character that it belongs to. -/
namespace ModalLexer.Diagnostic

open Text (Line)
open Unicode (isBlank cellWidth)

structure Drawn where
  char : Char
  cells : Nat
  deriving DecidableEq, Repr

def tabStop : Nat := 4

/-- A tab reaches to the next tab stop, counting characters and not cells. -/
def Drawn.ofChar (column : Nat) (c : Char) : Drawn :=
  if c = '\t' then ⟨' ', (column / tabStop + 1) * tabStop - column⟩
  else if isBlank c then ⟨' ', 1⟩
  else ⟨c, cellWidth c⟩

def Drawn.copies (d : Drawn) : Nat := if d.char = ' ' then d.cells else 1

def drawnLine (line : Line) : List Drawn :=
  line.trimmed.zipIdx.map fun entry => Drawn.ofChar entry.2 entry.1

def columnCells (line : Line) (count : Nat) : List Nat :=
  (((drawnLine line).take count).map Drawn.cells).rightpad count 1

def spaces (count : Nat) : String := String.ofList (List.replicate count ' ')

def isMarked (s : Span) (line : Line) (column : Nat) : Bool :=
  decide (s.start ≤ line.start + column ∧ line.start + column < s.stop)

def sourceRow (s : Span) (line : Line) : Row :=
  (drawnLine line).zipIdx.flatMap fun entry =>
    let hue := if isMarked s line entry.2 then Hue.mark else Hue.source
    List.replicate entry.1.copies (ink hue (String.singleton entry.1.char))

def columnRow (cells : Nat) (head tail : Ink) : Row :=
  match cells with
  | 0 => []
  | more + 1 => head :: List.replicate more tail

def hookColumn (s : Span) (line : Line) : Nat :=
  max ((s.start + s.stop) / 2) s.start - line.start

def markedCells (s : Span) (line : Line) : List (Nat × Nat) :=
  (columnCells line (s.stop + 2 - line.start)).zipIdx

def stroke : Ink := ink .mark "─"

def underlineRow (s : Span) (line : Line) : Row :=
  (markedCells s line).flatMap fun entry =>
    let marked := isMarked s line entry.2
    let tail := if marked then stroke else bare " "
    if entry.2 = hookColumn s line then
      columnRow entry.1 (ink .mark (if marked then "┬" else "│"))
        (ink .mark (if marked then "─" else " "))
    else columnRow entry.1 tail tail

def hookRow (s : Span) (line : Line) : Row :=
  (markedCells s line).flatMap fun entry =>
    if entry.2 = hookColumn s line then columnRow entry.1 (ink .mark "╰") stroke
    else if hookColumn s line < entry.2 then columnRow entry.1 stroke stroke
    else columnRow entry.1 (bare " ") (bare " ")

end ModalLexer.Diagnostic
