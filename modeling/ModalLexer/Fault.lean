import ModalLexer.Span

/-! Faults: where reading failed, for what cause, and in the middle of what. The wording, the code
and the advice of a fault hang on its cause alone. -/
namespace ModalLexer

inductive Cause where
  | exhausted
  | danglingEscape
  | escapedLetter (letter : Char)
  | numberOverflow (digits : String)
  | missingMode
  deriving DecidableEq, Repr

namespace Cause

def message : Cause → String
  | exhausted => "no tokens remain: end of input was already produced"
  | danglingEscape => "invalid escape: dangling escape at end of input"
  | escapedLetter letter =>
      "invalid escape: letter `" ++ String.singleton letter ++ "` cannot be escaped"
  | numberOverflow digits => "number `" ++ digits ++ "` does not fit in a 64-bit signed integer"
  | missingMode => "mode override requested without a mode"

def code : Cause → String
  | exhausted => "L0001"
  | danglingEscape | escapedLetter _ => "L0002"
  | numberOverflow _ => "L0003"
  | missingMode => "L0004"

def hint : Cause → Option String
  | exhausted => none
  | danglingEscape => some "remove the trailing `\\` or follow it with the character to escape"
  | escapedLetter _ => some "letters are taken literally; drop the `\\`"
  | numberOverflow _ =>
      some "numbers are whole 64-bit integers; decimal points are not supported"
  | missingMode => some "pass `basic` or `extended`"

def isEscape : Cause → Bool
  | danglingEscape | escapedLetter _ => true
  | _ => false

end Cause

inductive Context where
  | topLevel
  | word (start : Nat)
  | number (start : Nat)
  | modeOverride
  deriving DecidableEq, Repr, Inhabited

namespace Context

def label : Context → String
  | topLevel => "here"
  | word start => "in the word starting at offset " ++ toString start
  | number start => "in the number starting at offset " ++ toString start
  | modeOverride => "while applying the mode override"

def shift (c : Context) (bytes : Nat) : Context :=
  match c with
  | word start => word (start + bytes)
  | number start => number (start + bytes)
  | topLevel => topLevel
  | modeOverride => modeOverride

end Context

structure Fault where
  span : Span
  cause : Cause
  context : Context
  deriving DecidableEq, Repr

namespace Fault

def exhausted (span : Span) : Fault := ⟨span, .exhausted, .topLevel⟩

def danglingEscape (span : Span) (context : Context) : Fault := ⟨span, .danglingEscape, context⟩

def escapedLetter (span : Span) (letter : Char) (wordStart : Nat) : Fault :=
  ⟨span, .escapedLetter letter, .word wordStart⟩

def numberOverflow (span : Span) (digits : String) : Fault :=
  ⟨span, .numberOverflow digits, .number span.start⟩

def missingMode (offset : Nat) : Fault := ⟨.point offset, .missingMode, .modeOverride⟩

def shift (f : Fault) (bytes : Nat) : Fault := ⟨f.span.shift bytes, f.cause, f.context.shift bytes⟩

end Fault
end ModalLexer
