import ModalLexer.Span

/-! Tokens: what a piece of source means, and where it stands. -/
namespace ModalLexer

inductive Kind where
  | word (text : String)
  | number (value : Int)
  | symbol (char : Char)
  | eof
  deriving DecidableEq, Repr, Inhabited

namespace Kind

def name : Kind → String
  | word _ => "word"
  | number _ => "number"
  | symbol _ => "symbol"
  | eof => "eof"

def title : Kind → String
  | word _ => "Word"
  | number _ => "Number"
  | symbol _ => "Symbol"
  | eof => "Eof"

def word? : Kind → Option String
  | word text => some text
  | _ => none

def number? : Kind → Option Int
  | number value => some value
  | _ => none

def symbol? : Kind → Option Char
  | symbol char => some char
  | _ => none

end Kind

structure Token where
  kind : Kind
  span : Span
  deriving DecidableEq, Repr, Inhabited

namespace Token

def isEof (t : Token) : Bool :=
  match t.kind with
  | .eof => true
  | _ => false

def shift (t : Token) (bytes : Nat) : Token := { t with span := t.span.shift bytes }

end Token
end ModalLexer
