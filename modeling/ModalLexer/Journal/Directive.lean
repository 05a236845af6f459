import ModalLexer.Unicode.Blank
import ModalLexer.Unicode.Letter

/-! Directives of a log: how much is heard, and of what. A directive is a level alone, or is written
`target[span{field=value}]=level` with any of its parts left out. -/
namespace ModalLexer

open Unicode (isBlank isLetter)

inductive Level where
  | off
  | error
  | warn
  | info
  | debug
  | trace
  deriving DecidableEq, Repr, Inhabited

def wholeNumber? (text : List Char) : Option Nat :=
  let digits := if text.head? = some '+' then text.tail else text
  if digits ≠ [] ∧ digits.all Char.isDigit then some (Nat.ofDigitChars 10 digits 0) else none

namespace Level

def all : List Level := [off, error, warn, info, debug, trace]

def name : Level → String
  | off => "OFF"
  | error => "ERROR"
  | warn => "WARN"
  | info => "INFO"
  | debug => "DEBUG"
  | trace => "TRACE"

def rank : Level → Nat
  | off => 0
  | error => 1
  | warn => 2
  | info => 3
  | debug => 4
  | trace => 5

instance : LE Level := ⟨fun l m => l.rank ≤ m.rank⟩

instance (l m : Level) : Decidable (l ≤ m) := Nat.decLe l.rank m.rank

instance : Max Level := maxOfLe

def ofText? (text : List Char) : Option Level :=
  match wholeNumber? text with
  | some n => all[n]?
  | none => all.find? fun l => text.map Char.toUpper = l.name.toList

end Level

structure FieldTest where
  name : String
  value : Option String
  deriving DecidableEq, Repr

/-- Nothing counts after a second `=`. -/
def FieldTest.ofText (text : List Char) : FieldTest :=
  let name := text.takeWhile (· != '=')
  let value := match text.drop name.length with
    | [] => none
    | _ :: rest => some (String.ofList (rest.takeWhile (· != '=')))
  ⟨String.ofList name, value⟩

structure Directive where
  target : Option String
  span : Option String
  field : Option FieldTest
  level : Level
  deriving DecidableEq, Repr

inductive DirectiveFault where
  | malformed
  | unknownLevel
  deriving DecidableEq, Repr

def DirectiveFault.message : DirectiveFault → String
  | malformed => "invalid filter directive"
  | unknownLevel => "error parsing level filter: expected one of \"off\", \"error\", \"warn\", " ++
      "\"info\", \"debug\", \"trace\", or a number 0-5"

namespace Directive

def closingLevel : List Char → Except DirectiveFault Level
  | [] | ['='] => .ok .trace
  | '=' :: text =>
    match Level.ofText? text with
    | some level => .ok level
    | none => .error .unknownLevel
  | _ => .error .malformed

def ofBracket (target : Option String) (text : List Char) : Except DirectiveFault Directive :=
  let name := text.takeWhile fun c => c != ']' && c != '\x7b'
  match text.drop name.length with
  | ']' :: rest =>
    (closingLevel rest).map fun level => ⟨target, some (String.ofList name), none, level⟩
  | '\x7b' :: inner =>
    let field := inner.takeWhile (· != '\x7d')
    match inner.drop field.length with
    | '\x7d' :: ']' :: rest =>
      if field = [] then .error .malformed
      else
        let span := if name = [] then none else some (String.ofList name)
        (closingLevel rest).map fun level => ⟨target, span, some (.ofText field), level⟩
    | _ => .error .malformed
  | _ => .error .malformed

def mayOpen (c : Char) : Bool := c ∈ ['[', '-', ':', '_'] || c.isDigit || isLetter c

def ofText (text : String) : Except DirectiveFault Directive :=
  let chars := (text.toList.dropWhile isBlank).reverse.dropWhile isBlank |>.reverse
  let head := chars.takeWhile fun c => c != '=' && c != '['
  let target := if head = [] then none else some (String.ofList head)
  if chars.head?.any mayOpen then
    match chars.drop head.length with
    | [] =>
      match Level.ofText? head with
      | some level => .ok ⟨none, none, none, level⟩
      | none => .ok ⟨target, none, none, .trace⟩
    | '[' :: inner => ofBracket target inner
    | rest => (closingLevel rest).map fun level => ⟨target, none, none, level⟩
  else .error .malformed

end Directive
end ModalLexer
