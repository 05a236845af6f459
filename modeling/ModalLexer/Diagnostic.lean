import ModalLexer.Diagnostic.Drawing
import ModalLexer.Diagnostic.Placement
import ModalLexer.Fault

/-! Diagnostics: a fault shown on the lines of its source. The offsets of the fault are taken as
counts of characters here, so behind text outside ASCII the marks stand further right, and a span
may fall off the end of its source. -/
namespace ModalLexer.Diagnostic

open Text (Line)

def numberWidth (last : Line) : Nat := (toString (last.number + 1)).length

def locationRow (width : Nat) (name : String) (first : Line) (start : Nat) : Row :=
  let place := toString (first.number + 1) ++ ":" ++ toString (start - first.start + 1)
  [bare (spaces (width + 2)), ink .frame "╭", ink .frame "─", ink .frame "[",
    bare (name ++ ":" ++ place), ink .frame "]"]

def numberedMargin (width : Nat) (line : Line) : Row :=
  let number := toString (line.number + 1)
  [bare " ", ink .frame (spaces (width - number.length) ++ number ++ " │"), bare " "]

def margin (width : Nat) : Row := [bare " ", ink .gutter (spaces (width + 1) ++ "│"), bare " "]

def gapMargin (width : Nat) : Row := [bare " ", ink .gutter (spaces (width + 1) ++ "┆"), bare " "]

def arrow (corner : String) : Row :=
  [ink .mark corner, ink .mark "─", ink .mark "▶", ink .mark " "]

def labelReach (last : Line) : Nat :=
  (columnCells last (last.text.length + 2)).foldl (· + ·) 0

def acrossRows (width : Nat) (f : Fault) (first last : Line) (past : Bool) : List Row :=
  let opening := numberedMargin width first ++ arrow "╭" ++ sourceRow f.span first
  let gap := gapMargin width ++ [ink .mark "┆", bare "   "]
  let closing := numberedMargin width last ++ arrow "├" ++ sourceRow f.span last
  let reach := labelReach last
  let stem := margin width ++ [ink .mark "│", bare (spaces (3 + reach))]
  let label := margin width ++ [ink .mark "╰", stroke, stroke, stroke] ++
    List.replicate reach stroke ++ [bare (" " ++ f.context.label)]
  let gaps := if past ∨ first.number + 1 < last.number then [gap] else []
  [opening] ++ gaps ++ if past then [] else [closing, stem, label]

/-- The margin of the help below a span with several lines. The stem goes on beside it where the
span starts right after the first line of all. -/
def acrossHelpMargin (width : Nat) (text : List Char) (start : Nat) : Row :=
  let stemmed := (Line.split text).head?.any fun line => line.stop = start
  margin width ++ (if stemmed then [ink .mark "│", bare " "] else [bare "  "]) ++ [bare "  "]

def helpRows (start : Row) (f : Fault) : List Row :=
  match f.cause.hint with
  | some hint => [start, start ++ [ink .help "Help", bare (": " ++ hint)]]
  | none => []

def headingRow (f : Fault) : Row :=
  [ink .heading ("[" ++ f.cause.code ++ "] Error:"), bare (" " ++ f.cause.message)]

def bodyRows (width : Nat) (text : List Char) (f : Fault) : Placement → List Row
  | .outside => []
  | .beyond _ => [margin width] ++ helpRows (margin width) f
  | .within line =>
    [numberedMargin width line ++ sourceRow f.span line,
      margin width ++ underlineRow f.span line,
      margin width ++ hookRow f.span line ++ [bare (" " ++ f.context.label)]] ++
      helpRows (margin width) f
  | .across first last past =>
    acrossRows width f first last past ++
      helpRows (acrossHelpMargin width text f.span.start) f

def rows (name source : String) (f : Fault) : List Row :=
  let text := source.toList
  let placement := Placement.ofSpan text f.span
  match placement.first?, placement.last? with
  | some first, some last =>
    let width := numberWidth last
    [headingRow f, locationRow width name first f.span.start,
      [bare (spaces (width + 2)), ink .frame "│"]] ++
      bodyRows width text f placement ++
      [[ink .frame (String.ofList (List.replicate (width + 2) '─') ++ "╯")]]
  | _, _ => [headingRow f]

def render (name source : String) (f : Fault) (color : Bool) : String :=
  Text.unlines ((rows name source f).map (Row.render color))

end ModalLexer.Diagnostic
