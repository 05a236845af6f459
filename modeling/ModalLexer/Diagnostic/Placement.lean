import ModalLexer.Span
import ModalLexer.Text.Lines

/-! Placements: how a span lies on the lines of a text. Its offsets are taken as counts of
characters. -/
namespace ModalLexer.Diagnostic

open Text (Line)

inductive Placement where
  /-- One of its ends is on no line. -/
  | outside
  | beyond (line : Line)
  | within (line : Line)
  | across (first last : Line) (past : Bool)
  deriving DecidableEq, Repr

def Placement.ofSpan (text : List Char) (s : Span) : Placement :=
  let last := if s.stop ≤ s.start then s.start else s.stop - 1
  match Line.at? text s.start, Line.at? text last with
  | some first, some last =>
    if first.number = last.number then
      if first.stop < s.stop then .beyond first else .within first
    else .across first last (s.stop = text.length + 1)
  | _, _ => .outside

def Placement.first? : Placement → Option Line
  | outside => none
  | beyond line | within line => some line
  | across first _ _ => some first

def Placement.last? : Placement → Option Line
  | outside => none
  | beyond line | within line => some line
  | across _ last _ => some last

end ModalLexer.Diagnostic
