import ModalLexer.Unicode.Hidden

/-! Quoted text, written so that every character can be seen: a few controls by a letter, the quote
itself and the backslash behind a backslash, any other hidden character by its code point. -/
namespace ModalLexer.Text.Quoted

open Unicode (isHidden)

def named : List (Char × Char) :=
  [('\x00', '0'), ('\t', 't'), ('\n', 'n'), ('\r', 'r'), ('\\', '\\')]

def codePoint (c : Char) : List Char :=
  ['\\', 'u', '\x7b'] ++ Nat.toDigits 16 c.toNat ++ ['\x7d']

def spell (mark : Char) (hides : Char → Bool) (c : Char) : List Char :=
  match named.lookup c with
  | some sign => ['\\', sign]
  | none => if c = mark then ['\\', c] else if hides c then codePoint c else [c]

def quote (mark : Char) (hides : Char → Bool) (text : List Char) : String :=
  String.ofList (mark :: (text.flatMap (spell mark hides) ++ [mark]))

def string (text : String) (hides : Char → Bool := isHidden) : String :=
  quote '"' hides text.toList

def char (c : Char) (hides : Char → Bool := isHidden) : String := quote '\'' hides [c]

end ModalLexer.Text.Quoted
