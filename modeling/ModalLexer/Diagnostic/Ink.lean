/-! Ink: the painted stretches that the rows of a diagnostic are made of. -/
namespace ModalLexer.Diagnostic

inductive Hue where
  | heading
  | mark
  | frame
  | gutter
  | source
  | help
  deriving DecidableEq, Repr

/-- The colour of a hue, as the parameters of a terminal's escape sequence. Without colour the
marks alone are painted, and they are red. -/
def Hue.code? (color : Bool) : Hue → Option String
  | mark => some "31"
  | heading => if color then some "31" else none
  | frame => if color then some "38;5;246" else none
  | gutter => if color then some "38;5;240" else none
  | source => if color then some "38;5;249" else none
  | help => if color then some "38;5;115" else none

structure Ink where
  hue : Option Hue
  text : String
  deriving DecidableEq, Repr

abbrev Row := List Ink

def bare (text : String) : Ink := ⟨none, text⟩

def ink (hue : Hue) (text : String) : Ink := ⟨some hue, text⟩

def paint (code text : String) : String := "\x1b[" ++ code ++ "m" ++ text ++ "\x1b[0m"

def Ink.render (color : Bool) (i : Ink) : String :=
  match i.hue.bind (Hue.code? color) with
  | some code => paint code i.text
  | none => i.text

namespace Row

def render (color : Bool) (row : Row) : String := String.join (row.map (Ink.render color))

def text (row : Row) : String := String.join (row.map Ink.text)

end Row
end ModalLexer.Diagnostic
