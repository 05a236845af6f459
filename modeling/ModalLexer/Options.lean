import ModalLexer.Listing
import ModalLexer.Mode

/-! Options of a run, and the arguments that set them. Each argument is read on its own; a value
that is not known gives a warning and leaves the option as it was. -/
namespace ModalLexer

/-- No mode at all can be asked for; the session then refuses to change its mode. -/
structure Options where
  mode : Option Mode
  format : Format
  spans : Bool
  deriving DecidableEq, Repr

instance : Inhabited Options := ⟨some default, default, false⟩

inductive Warning where
  | unknownMode (e : UnknownMode)
  | unknownFormat (name : String)
  deriving DecidableEq, Repr

def Warning.message : Warning → String
  | unknownMode e => "warning: " ++ e.message ++ ", using basic"
  | unknownFormat name =>
      "warning: unknown format '" ++ name ++ "', options: plain, debug, json"

def valueOf? (name arg : String) : Option String :=
  (name.toList.isPrefixOf? arg.toList).map String.ofList

inductive Setting where
  | mode (value : Option Mode)
  | format (value : Format)
  | spans
  | unknown (warning : Warning)
  | other
  deriving DecidableEq, Repr

namespace Setting

def ofModeName (name : String) : Setting :=
  if name = "" then mode none
  else
    match Mode.ofName name with
    | .ok m => mode (some m)
    | .error e => unknown (.unknownMode e)

def ofFormatName (name : String) : Setting :=
  match Format.ofName? name with
  | some f => format f
  | none => unknown (.unknownFormat name)

def ofArg (arg : String) : Setting :=
  match valueOf? "--mode=" arg with
  | some name => ofModeName name
  | none =>
    match valueOf? "--format=" arg with
    | some name => ofFormatName name
    | none => if arg = "--spans" then spans else other

def apply (options : Options) : Setting → Options
  | mode value => { options with mode := value }
  | format value => { options with format := value }
  | spans => { options with spans := true }
  | unknown _ | other => options

def warning? : Setting → Option Warning
  | unknown w => some w
  | _ => none

end Setting

namespace Options

def ofArgs (args : List String) : Options := (args.map Setting.ofArg).foldl Setting.apply default

def warnings (args : List String) : List Warning := args.filterMap fun arg =>
  (Setting.ofArg arg).warning?

end Options
end ModalLexer
