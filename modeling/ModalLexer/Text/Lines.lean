import ModalLexer.Unicode.Blank

/-! Lines of a text. A line keeps the break that ends it, and nothing follows a last break. -/
namespace ModalLexer.Text

open Unicode (isBlank)

def isBreak (c : Char) : Bool :=
  c == '\n' || c == '\x0b' || c == '\x0c' || c == '\r' || c == '\u0085' || c == '\u2028' ||
    c == '\u2029'

structure Line where
  number : Nat
  start : Nat
  text : List Char
  deriving DecidableEq, Repr

namespace Line

def stop (l : Line) : Nat := l.start + l.text.length

def trimmed (l : Line) : List Char := (l.text.reverse.dropWhile isBlank).reverse

def splitOnto (done : List Line) (number start : Nat) (taken : List Char) :
    List Char → List Line
  | [] => if taken.isEmpty then done.reverse else (⟨number, start, taken.reverse⟩ :: done).reverse
  | c :: rest =>
    let inLine := c = '\r' ∧ rest.head? = some '\n' ∨ isBreak c = false
    if inLine then splitOnto done number start (c :: taken) rest
    else
      let line := ⟨number, start, (c :: taken).reverse⟩
      splitOnto (line :: done) (number + 1) line.stop [] rest

def split (text : List Char) : List Line := splitOnto [] 0 0 [] text

/-- The line of the character at `offset`. The end of the text counts as part of its last line. -/
def at? (text : List Char) (offset : Nat) : Option Line :=
  if offset ≤ text.length then
    ((split text).takeWhile (fun line => decide (line.start ≤ offset))).getLast?
  else none

end Line

def unlines (lines : List String) : String := String.join (lines.map (· ++ "\n"))

end ModalLexer.Text
