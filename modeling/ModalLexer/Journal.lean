import ModalLexer.Journal.Filter
import ModalLexer.Run

/-! The journal of a run: its tokens and its changes of mode, as they came, and what a log shows of
them. A change that a token brings about comes before the token. -/
namespace ModalLexer

inductive Trigger where
  | override
  | switchMark
  | runMetMark
  deriving DecidableEq, Repr

def Trigger.text : Trigger → String
  | override => "override"
  | switchMark => "mode switch symbol"
  | runMetMark => "run reached mode switch"

inductive Event where
  /-- `offset` is the place of the session just after the change. -/
  | modeChange (origin target : Mode) (offset : Nat) (trigger : Trigger)
  /-- `mode` is the mode after the token. -/
  | token (token : Token) (mode : Mode)
  deriving DecidableEq, Repr

namespace Event

def ofModes (origin target : Mode) (offset : Nat) (trigger : Trigger) : List Event :=
  if origin = target then [] else [modeChange origin target offset trigger]

def triggerOf (t : Token) : Trigger :=
  if t.kind = .symbol switchMark then .switchMark else .runMetMark

/-- A fault leaves no event. -/
def ofStep (origin : Mode) (step : Session.Step) : List Event :=
  match step.result with
  | .error _ => []
  | .ok t =>
    ofModes origin step.after.mode step.after.pos (triggerOf t) ++ [token t step.after.mode]

end Event

def Session.events (s : Session) : List Event :=
  let steps := s.steps
  let origins := s.mode :: steps.map fun step => step.after.mode
  (origins.zip steps).flatMap fun pair => Event.ofStep pair.1 pair.2

def Options.events (options : Options) (source : String) : List Event :=
  match options.session source with
  | .error _ => []
  | .ok s => Event.ofModes (Session.start source).mode s.mode s.pos .override ++ s.events

structure Entry where
  target : String
  level : Level
  message : String
  fields : List (String × String)
  deriving DecidableEq, Repr

namespace Entry

def site (e : Entry) : Site := ⟨e.target, e.level, "message" :: e.fields.map Prod.fst⟩

def parts (e : Entry) : List String :=
  e.message :: e.fields.map fun (name, value) => name ++ "=" ++ value

def treeLine (e : Entry) : String :=
  " " ++ e.level.name ++ " " ++ e.target ++ " " ++ ", ".intercalate e.parts

end Entry

def sessionTarget : String := "quill_lexer::tokenizer"

def runTarget : String := "quillc::commands::lex"

def Event.entry : Event → Entry
  | modeChange origin target offset trigger => ⟨sessionTarget, .debug, "mode change",
      [("from", origin.name), ("to", target.name), ("at", toString offset),
        ("cause", Text.Quoted.string trigger.text)]⟩
  | token t mode => ⟨sessionTarget, .trace, "token",
      [("kind", t.kind.term), ("span", t.span.text), ("mode", mode.name)]⟩

def modeText : Option Mode → String
  | some .basic => "Some(Basic)"
  | some .extended => "Some(Extended)"
  | none => "None"

namespace Options

def logSpan (options : Options) (source : String) : LogSpan :=
  ⟨runTarget, "lex_source",
    [("len", .number source.utf8ByteSize), ("mode", .text (modeText options.mode))]⟩

def closing? (options : Options) (source : String) : Option Entry :=
  match options.tokens source with
  | .ok tokens => some ⟨runTarget, .debug, "tokenized", [("count", toString tokens.length)]⟩
  | .error _ => none

def entries (options : Options) (source : String) : List Entry :=
  (options.events source).map Event.entry ++ (options.closing? source).toList

end Options

namespace LogSpan

def parts (span : LogSpan) : List String :=
  span.fields.map fun (name, value) => name ++ "=" ++ value.shown

def treeLine (span : LogSpan) : String :=
  " " ++ span.target ++ "::" ++ span.name ++ " " ++ ", ".intercalate span.parts

end LogSpan

/-- A line of the plain layout bears the time at which it was written. What a host makes of the
`n`-th entry, and of the span around it where that is shown, is not for the log to say. -/
inductive Layout where
  | tree
  | plain (write : Nat → Option LogSpan → Entry → String)

def Entry.untimed (span : Option LogSpan) (e : Entry) : String :=
  let around := span.elim "" fun s => s.name ++ "\x7b" ++ " ".intercalate s.parts ++ "\x7d: "
  "".pushn ' ' (5 - e.level.name.length) ++ e.level.name ++ " " ++ around ++ e.target ++ ": " ++
    " ".intercalate e.parts

structure Log where
  filter : Option Filter
  layout : Layout

namespace Log

def ofSettings (filter : Option String) (tree : Bool)
    (write : Nat → Option LogSpan → Entry → String := fun _ => Entry.untimed) : Log :=
  ⟨filter.map Filter.ofText, if tree then .tree else .plain write⟩

def silent : Log := ⟨none, .tree⟩

end Log

namespace Filter

def heard (f : Filter) (options : Options) (source : String) : List Entry :=
  (options.entries source).filter fun entry => f.hearsIn (options.logSpan source) entry.site

def around? (f : Filter) (options : Options) (source : String) : Option LogSpan :=
  let span := options.logSpan source
  if f.shows span then some span else none

def tree (f : Filter) (options : Options) (source : String) : List String :=
  let lines := (f.heard options source).map Entry.treeLine
  match f.around? options source with
  | some span => span.treeLine :: lines.map (" " ++ ·)
  | none => lines

def plain (f : Filter) (write : Nat → Option LogSpan → Entry → String) (options : Options)
    (source : String) : List String :=
  (f.heard options source).zipIdx.map fun (entry, n) => write n (f.around? options source) entry

end Filter

def Log.lines (log : Log) (options : Options) (source : String) : List String :=
  match log with
  | ⟨none, _⟩ => []
  | ⟨some f, .tree⟩ => f.tree options source
  | ⟨some f, .plain write⟩ => f.plain write options source

def Log.refusals (log : Log) : List String := log.filter.elim [] Filter.refusals

end ModalLexer
