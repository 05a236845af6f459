import ModalLexer.Options

/-! Invocations: what is to be read and how, as the arguments of one run say it. -/
namespace ModalLexer

inductive Input where
  | file (path : String)
  | inline (text : String)
  deriving DecidableEq, Repr

def Input.name : Input → String
  | file path => path
  | inline _ => "<expr>"

inductive UsageFault where
  | unexpectedArgument (arg : String)
  | missingInput
  deriving DecidableEq, Repr

def UsageFault.message : UsageFault → String
  | unexpectedArgument arg => "unexpected argument '" ++ arg ++ "'"
  | missingInput => "missing input: pass a file or --expr=<text>"

inductive Role where
  | inline (text : String)
  | flag
  | positional
  deriving DecidableEq, Repr

def Role.ofArg (arg : String) : Role :=
  match valueOf? "--expr=" arg with
  | some text => inline text
  | none => if arg.toList.head? = some '-' then flag else positional

structure Invocation where
  input : Input
  options : Options
  deriving DecidableEq, Repr

namespace Invocation

/-- The last inline text takes the place of any input before it; a file has to come first. -/
def inputFrom (found : Option Input) : List String → Except UsageFault Input
  | [] =>
    match found with
    | some input => .ok input
    | none => .error .missingInput
  | arg :: rest =>
    match Role.ofArg arg with
    | .inline text => inputFrom (some (.inline text)) rest
    | .flag => inputFrom found rest
    | .positional =>
      match found with
      | none => inputFrom (some (.file arg)) rest
      | some _ => .error (.unexpectedArgument arg)

def flags (args : List String) : List String := args.filter fun arg => Role.ofArg arg = .flag

def ofArgs (args : List String) : Except UsageFault Invocation :=
  (inputFrom none args).map fun input => ⟨input, .ofArgs (flags args)⟩

def warnings (args : List String) : List Warning := Options.warnings (flags args)

end Invocation
end ModalLexer
