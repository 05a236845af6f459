import ModalLexer.Text.Json
import ModalLexer.Text.Lines
import ModalLexer.Text.Quoted

/-! Listings: tokens as text, one a line, or as a JSON array. -/
namespace ModalLexer

open Text
open Unicode (isHidden)

inductive Format where
  | plain
  | debug
  | json
  deriving DecidableEq, Repr, Inhabited

namespace Format

def name : Format → String
  | plain => "plain"
  | debug => "debug"
  | json => "json"

def ofName? (text : String) : Option Format :=
  if text = plain.name then some plain
  else if text = debug.name then some debug
  else if text = json.name then some json
  else none

end Format

namespace Kind

def plain (k : Kind) (hides : Char → Bool := isHidden) : String :=
  match k with
  | word text => "word " ++ Quoted.string text hides
  | number value => "number " ++ toString value
  | symbol c => "symbol " ++ Quoted.char c hides
  | eof => "eof"

def term (k : Kind) (hides : Char → Bool := isHidden) : String :=
  match k with
  | word text => k.title ++ "(" ++ Quoted.string text hides ++ ")"
  | number value => k.title ++ "(" ++ toString value ++ ")"
  | symbol c => k.title ++ "(" ++ Quoted.char c hides ++ ")"
  | eof => k.title

end Kind

namespace Token

def spanColumn : Nat := 24

def plain (spans : Bool) (t : Token) (hides : Char → Bool := isHidden) : String :=
  if spans then
    String.ofList ((t.kind.plain hides).toList.rightpad spanColumn ' ') ++ " " ++ t.span.text
  else t.kind.plain hides

def debug (t : Token) (hides : Char → Bool := isHidden) : String :=
  t.kind.term hides ++ " @ " ++ t.span.text

end Token

def listing (format : Format) (spans : Bool) (tokens : List Token)
    (hides : Char → Bool := isHidden) : String :=
  match format with
  | .plain => unlines (tokens.map (Token.plain spans · hides))
  | .debug => unlines (tokens.map (Token.debug · hides))
  | .json => Token.jsonArray tokens ++ "\n"

end ModalLexer
