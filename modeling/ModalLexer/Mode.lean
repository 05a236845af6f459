/-! The two modes of reading and their names. -/
namespace ModalLexer

inductive Mode where
  | basic
  | extended
  deriving DecidableEq, Repr, Inhabited

def switchMark : Char := '#'

structure UnknownMode where
  name : String
  deriving DecidableEq, Repr

def UnknownMode.message (e : UnknownMode) : String :=
  "unknown mode `" ++ e.name ++ "` (expected `basic` or `extended`)"

namespace Mode

def flipped : Mode → Mode
  | basic => extended
  | extended => basic

def name : Mode → String
  | basic => "basic"
  | extended => "extended"

def ofName (text : String) : Except UnknownMode Mode :=
  let lowered := text.toList.map Char.toLower
  if lowered = basic.name.toList then .ok basic
  else if lowered = extended.name.toList then .ok extended
  else .error ⟨text⟩

end Mode
end ModalLexer
