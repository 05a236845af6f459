import ModalLexer.Token

/-! JSON text of tokens. A string escapes the quote, the backslash and the controls below the space;
all other characters stand as they are. -/
namespace ModalLexer

namespace Text.Json

def named : List (Char × Char) :=
  [('"', '"'), ('\\', '\\'), ('\x08', 'b'), ('\x0c', 'f'), ('\n', 'n'), ('\r', 'r'), ('\t', 't')]

def codeUnit (n : Nat) : List Char :=
  let digits := Nat.toDigits 16 n
  List.replicate (4 - digits.length) '0' ++ digits

def spell (c : Char) : List Char :=
  match named.lookup c with
  | some sign => ['\\', sign]
  | none => if c.toNat < 0x20 then ['\\', 'u'] ++ codeUnit c.toNat else [c]

def string (text : String) : String :=
  String.ofList ('"' :: (text.toList.flatMap spell ++ ['"']))

end Text.Json

namespace Token

open Text

def members (t : Token) : List (String × String) :=
  let value :=
    match t.kind with
    | .word text => [("value", Json.string text)]
    | .number value => [("value", toString value)]
    | .symbol c => [("value", Json.string (String.singleton c))]
    | .eof => []
  [("kind", Json.string t.kind.name)] ++ value ++
    [("start", toString t.span.start), ("end", toString t.span.stop)]

def json (t : Token) : String :=
  let member := fun (m : String × String) => Json.string m.1 ++ ":" ++ m.2
  "\x7b" ++ String.intercalate "," (t.members.map member) ++ "\x7d"

def jsonElement (t : Token) : String :=
  let member := fun (m : String × String) => "    " ++ Json.string m.1 ++ ": " ++ m.2
  "  \x7b\n" ++ String.intercalate ",\n" (t.members.map member) ++ "\n  \x7d"

def jsonArray (tokens : List Token) : String :=
  if tokens.isEmpty then "[]"
  else "[\n" ++ String.intercalate ",\n" (tokens.map jsonElement) ++ "\n]"

end Token
end ModalLexer
