import ModalLexer.Options
import ModalLexer.Session

/-! Runs: a source read and listed as the options ask. Nothing is listed of a source with a fault. -/
namespace ModalLexer

def Options.session (options : Options) (source : String) : Except Fault Session :=
  match (Session.start source).setMode options.mode with
  | (.ok _, s) => .ok s
  | (.error fault, _) => .error fault

def Options.tokens (options : Options) (source : String) : Except Fault (List Token) :=
  (options.session source).bind Session.tokens

def Options.list (options : Options) (source : String) : Except Fault String :=
  (options.tokens source).map fun tokens => listing options.format options.spans tokens

end ModalLexer
