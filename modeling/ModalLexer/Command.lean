import ModalLexer.Diagnostic
import ModalLexer.Disk
import ModalLexer.Invocation
import ModalLexer.Journal

/-! The command line: what a run prints and how it exits. Files, colour and log come from a host. -/
namespace ModalLexer

structure Host where
  read : String → Except ReadFault String
  color : Bool
  log : Log

structure Outcome where
  exit : Nat
  stdout : String
  stderr : String
  deriving DecidableEq, Repr

namespace Outcome

def success (stdout stderr : String) : Outcome := ⟨0, stdout, stderr⟩

def failure (stdout stderr : String) : Outcome := ⟨1, stdout, stderr⟩

end Outcome

namespace Command

open Text (unlines)

def lexUsage : String := "Usage: quill lex <file.quill> [options]"

def inlineUsage : String := "       quill lex --expr=<text> [options]"

def help : String := unlines
  ["Quill template tokenizer",
    "",
    "Usage: quill <command> [options]",
    "",
    "Commands:",
    "  lex <file.quill>     Tokenize a file and display tokens",
    "  lex --expr=<text>    Tokenize inline text",
    "  help                 Show this help message",
    "  version              Show version information",
    "",
    "Lex options:",
    "  --mode=<mode>        Initial mode: basic (default), extended",
    "  --format=<format>    Output: plain (default), debug, json",
    "  --spans              Show byte spans in plain output",
    "",
    "Environment:",
    "  RUST_LOG             Enable logging (e.g. quill_lexer=trace)",
    "  QUILL_LOG_TREE       Use indented tree log output",
    "",
    "Examples:",
    "  quill lex page.quill",
    "  quill lex --expr='hello #raw text#' --spans",
    "  quill lex page.quill --mode=extended --format=json"]

def version : String := "0.1.0"

def textOf (host : Host) : Input → Except String String
  | .inline text => .ok text
  | .file path => (host.read path).mapError (ReadFault.message path)

/-- Lists the tokens of a source on the output. A fault is shown after the log of what came before
it, and then nothing is listed. -/
def listSource (host : Host) (name source : String) (options : Options) : Outcome :=
  let log := unlines (host.log.lines options source)
  match options.list source with
  | .ok text => .success text log
  | .error fault => .failure "" (log ++ Diagnostic.render name source fault host.color)

def invoke (host : Host) (invocation : Invocation) : Outcome :=
  match textOf host invocation.input with
  | .error message => .failure "" (message ++ "\n")
  | .ok source => listSource host invocation.input.name source invocation.options

inductive Plan where
  | settled (outcome : Outcome)
  | list (invocation : Invocation) (warnings : List Warning)
  deriving DecidableEq, Repr

namespace Plan

def file? : Plan → Option String
  | list ⟨.file path, _⟩ _ => some path
  | _ => none

def carryOut (host : Host) : Plan → Outcome
  | settled outcome => outcome
  | list invocation warnings =>
    let outcome := invoke host invocation
    { outcome with stderr := unlines (warnings.map Warning.message) ++ outcome.stderr }

def run (host : Host) (plan : Plan) : Outcome :=
  let outcome := plan.carryOut host
  { outcome with stderr := unlines host.log.refusals ++ outcome.stderr }

end Plan

def lexPlan (args : List String) : Plan :=
  match Invocation.ofArgs args with
  | .error fault =>
    .settled (.failure "" (unlines ["error: " ++ fault.message, lexUsage, inlineUsage]))
  | .ok invocation => .list invocation (Invocation.warnings args)

def lex (host : Host) (args : List String) : Outcome := (lexPlan args).run host

def isSourcePath (path : String) : Bool :=
  (Path.extension? path).any fun ending => ending.map Char.toLower = "quill".toList

def plan : List String → Plan
  | [] => .settled (.failure help "")
  | command :: rest =>
    if command = "lex" then
      if rest = [] then .settled (.failure "" (unlines [lexUsage])) else lexPlan rest
    else if command ∈ ["help", "--help", "-h"] then .settled (.success help "")
    else if command ∈ ["version", "--version", "-v"] then
      .settled (.success ("Quill " ++ version ++ "\n") "")
    else if isSourcePath command then lexPlan (command :: rest)
    else .settled (.failure help (unlines ["Unknown command: " ++ command, ""]))

def run (host : Host) (args : List String) : Outcome := (plan args).run host

end Command
end ModalLexer
