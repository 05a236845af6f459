import Mathlib.Control.Monad.Basic
import ModalLexer.Command
import ModalLexer.Proofs.Argument
import ModalLexer.Proofs.Recovery
import ModalLexer.Proofs.Stream

/-! Outcomes of the listing command: all the tokens of a source and nothing but warnings besides, or
no token and the one reason. Files are given by their bytes, and nothing is logged. -/
namespace ModalLexer

open Text

theorem readExact {bytes : ByteArray} {text : String} :
    readText bytes = .ok text ↔ bytes = text.toByteArray := by
  rw [readText, String.fromUTF8?]
  constructor
  · intro read
    split_ifs at read with valid
    · cases read
      rfl
  · intro same
    subst same
    rw [dif_pos text.isValidUTF8]
    rfl

theorem unreadFault {bytes : ByteArray} {fault : ReadFault} (unread : readText bytes = .error fault) :
    fault = .notUtf8 := by
  rw [readText] at unread
  split at unread
  · contradiction
  · exact (Except.error.inj unread).symm

theorem unlinesConcat (lines : List String) (line : String) :
    unlines (lines ++ [line]) = unlines lines ++ line ++ "\n" := by
  simp [unlines, String.append_assoc]

theorem unlinesSaid (line : String) (lines : List String) : unlines (line :: lines) ≠ "" := by
  intro silent
  have text := congrArg String.toList silent
  rw [unlinesCons] at text
  simp at text

theorem listingEnds (format : Format) (spans : Bool) (tokens : List Token) (last : Token) :
    ∃ text, listing format spans (tokens ++ [last]) = text ++ "\n" := by
  cases format with
  | plain | debug =>
    rw [listing, List.map_append, List.map_singleton, unlinesConcat]
    exact ⟨_, rfl⟩
  | json => exact ⟨_, rfl⟩

theorem renderSaid (name source : String) (f : Fault) (color : Bool) :
    Diagnostic.render name source f color ≠ "" := by
  have headed : ∃ rest, Diagnostic.rows name source f = Diagnostic.headingRow f :: rest := by
    rw [Diagnostic.rows]
    split <;> exact ⟨_, rfl⟩
  obtain ⟨rest, rows⟩ := headed
  rw [Diagnostic.render, rows, List.map_cons]
  exact unlinesSaid _ _

namespace Options

theorem tokensModed {options : Options} {mode : Mode} (asked : options.mode = some mode)
    (source : String) : options.tokens source = tokenize source mode := by
  rw [tokens, session, asked]
  rfl

theorem tokensModeless {options : Options} (none : options.mode = none) (source : String) :
    options.tokens source = .error (.missingMode 0) := by
  rw [tokens, session, none]
  rfl

end Options

def Host.quiet (files : String → Except ReadFault ByteArray) (color : Bool) : Host :=
  ⟨fun path => (files path).bind readText, color, .silent⟩

def Disk.bytes (d : Disk) (path : String) : Except ReadFault ByteArray := do
  match ← d.resolve path with
  | .above => .error .isDirectory
  | .within names =>
    match d.node? names with
    | none => .error .missing
    | some .directory => .error .isDirectory
    | some (.file bytes) => .ok bytes

theorem Disk.quiet (d : Disk) (color : Bool) : Host.quiet d.bytes color = ⟨d.read, color, .silent⟩ := by
  have reads : ∀ path, (d.bytes path).bind readText = d.read path := by
    intro path
    rw [bytes, read]
    cases d.resolve path with
    | error fault => rfl
    | ok place =>
      cases place with
      | above => rfl
      | within names =>
        simp only [bind, Except.bind]
        cases d.node? names with
        | none => rfl
        | some node => cases node <;> rfl
  rw [Host.quiet, funext reads]

variable {files : String → Except ReadFault ByteArray} {color : Bool} {args : List String}

namespace Command

inductive Available (files : String → Except ReadFault ByteArray) : Input → String → Prop where
  | inline (text : String) : Available files (.inline text) text
  | file {path : String} {text : String} (found : files path = .ok text.toByteArray) :
      Available files (.file path) text

inductive Lists (files : String → Except ReadFault ByteArray) (args : List String) :
    Options → List Token → Prop where
  | intro {input options source mode tokens}
      (parsed : Invocation.ofArgs args = .ok ⟨input, options⟩)
      (available : Available files input source) (asked : options.mode = some mode)
      (tokenized : tokenize source mode = .ok tokens) : Lists files args options tokens

inductive Complaint (files : String → Except ReadFault ByteArray) (color : Bool) :
    Invocation → String → Prop where
  | unread {path options fault} (missed : files path = .error fault) :
      Complaint files color ⟨.file path, options⟩ (fault.message path ++ "\n")
  | notText {path options bytes} (found : files path = .ok bytes)
      (never : ∀ text : String, bytes ≠ text.toByteArray) :
      Complaint files color ⟨.file path, options⟩ (ReadFault.notUtf8.message path ++ "\n")
  | modeless {invocation source} (available : Available files invocation.input source)
      (none : invocation.options.mode = none) : Complaint files color invocation
        (Diagnostic.render invocation.input.name source (.missingMode 0) color)
  | faulty {invocation source mode fault} (available : Available files invocation.input source)
      (asked : invocation.options.mode = some mode)
      (failed : tokenize source mode = .error fault) : Complaint files color invocation
        (Diagnostic.render invocation.input.name source fault color)

inductive Refusal (files : String → Except ReadFault ByteArray) (color : Bool) (args : List String) :
    String → Prop where
  | usage {fault} (refused : Invocation.ofArgs args = .error fault) :
      Refusal files color args (unlines ["error: " ++ fault.message, lexUsage, inlineUsage])
  | complaint {invocation warnings reason} (parsed : Invocation.ofArgs args = .ok invocation)
      (warned : Warns args warnings) (complaint : Complaint files color invocation reason) :
      Refusal files color args (unlines (warnings.map Warning.message) ++ reason)

theorem complaintSaid {invocation : Invocation} {text : String}
    (complaint : Complaint files color invocation text) : text ≠ "" := by
  cases complaint with
  | unread | notText => simp
  | modeless | faulty => exact renderSaid _ _ _ _

theorem refusalSaid {text : String} (refusal : Refusal files color args text) : text ≠ "" := by
  cases refusal with
  | usage => exact unlinesSaid _ _
  | complaint _ _ complaint =>
    intro silent
    exact complaintSaid complaint (String.append_eq_empty_iff.mp silent).2

theorem quietText (path : String) : textOf (.quiet files color) (.file path) =
    ((files path).bind readText).mapError (ReadFault.message path) := rfl

theorem availableText {input : Input} {source : String} (available : Available files input source) :
    textOf (.quiet files color) input = .ok source := by
  cases available with
  | inline => rfl
  | file found =>
    rw [quietText, found, Except.bind, readExact.mpr rfl]
    rfl

theorem textEnds (input : Input) (options : Options) :
    (∃ source, Available files input source) ∨
      ∃ message, textOf (.quiet files color) input = .error message ∧
        Complaint files color ⟨input, options⟩ (message ++ "\n") := by
  cases input with
  | inline text => exact .inl ⟨text, .inline text⟩
  | file path =>
    cases found : files path with
    | error fault =>
      rw [quietText, found]
      exact .inr ⟨_, rfl, .unread found⟩
    | ok bytes =>
      cases read : readText bytes with
      | ok source => exact .inl ⟨source, .file (readExact.mp read ▸ found)⟩
      | error fault =>
        rw [quietText, found, Except.bind, read, unreadFault read]
        refine .inr ⟨_, rfl, .notText found fun text same => ?_⟩
        rw [readExact.mpr same] at read
        contradiction

theorem availableInvoke {input : Input} {source : String} (available : Available files input source)
    (options : Options) : invoke (.quiet files color) ⟨input, options⟩ =
      match options.tokens source with
      | .ok tokens => .success (listing options.format options.spans tokens) ""
      | .error fault => .failure "" (Diagnostic.render input.name source fault color) := by
  rw [invoke, availableText available]
  cases read : options.tokens source <;>
    simp [listSource, Options.list, read, Except.map, Host.quiet, Log.lines, Log.silent, unlines]

theorem listsInvoke {options : Options} {tokens : List Token}
    (lists : Lists files args options tokens) :
    ∃ input, Invocation.ofArgs args = .ok ⟨input, options⟩ ∧
      invoke (.quiet files color) ⟨input, options⟩ =
        .success (listing options.format options.spans tokens) "" := by
  obtain ⟨parsed, available, asked, tokenized⟩ := lists
  refine ⟨_, parsed, ?_⟩
  rw [availableInvoke available, Options.tokensModed asked, tokenized]

theorem invokeEnds {invocation : Invocation} (parsed : Invocation.ofArgs args = .ok invocation) :
    (∃ tokens, Lists files args invocation.options tokens) ∨
      ∃ text, invoke (.quiet files color) invocation = .failure "" text ∧
        Complaint files color invocation text := by
  obtain ⟨input, options⟩ := invocation
  obtain ⟨source, available⟩ | ⟨message, missing, complaint⟩ :=
    @textEnds files color input options
  · rw [availableInvoke available]
    cases asked : options.mode with
    | none =>
      rw [Options.tokensModeless asked]
      exact .inr ⟨_, rfl, .modeless available asked⟩
    | some mode =>
      rw [Options.tokensModed asked]
      cases read : tokenize source mode with
      | ok tokens => exact .inl ⟨tokens, .intro parsed available asked read⟩
      | error fault => exact .inr ⟨_, rfl, .faulty available asked read⟩
  · refine .inr ⟨_, ?_, complaint⟩
    rw [invoke, missing]

theorem lexRefused {fault : UsageFault} (refused : Invocation.ofArgs args = .error fault) :
    lex (.quiet files color) args =
      .failure "" (unlines ["error: " ++ fault.message, lexUsage, inlineUsage]) := by
  rw [lex, lexPlan, refused]
  simp [Plan.run, Plan.carryOut, Host.quiet, Log.refusals, Log.silent, Outcome.failure, unlines]

theorem lexInvoked {invocation : Invocation} (parsed : Invocation.ofArgs args = .ok invocation) :
    let outcome := invoke (.quiet files color) invocation
    lex (.quiet files color) args = { outcome with
      stderr := unlines ((Options.warnings args).map Warning.message) ++ outcome.stderr } := by
  rw [lex, lexPlan, parsed, Invocation.flagsWarn]
  simp [Plan.run, Plan.carryOut, Host.quiet, Log.refusals, Log.silent, unlines]

theorem listsLex {options : Options} {tokens : List Token} (lists : Lists files args options tokens) :
    lex (.quiet files color) args = .success (listing options.format options.spans tokens)
      (unlines ((Options.warnings args).map Warning.message)) := by
  obtain ⟨input, parsed, listed⟩ := @listsInvoke files color args options tokens lists
  have run := @lexInvoked files color args _ parsed
  rw [listed] at run
  simpa [Outcome.success] using run

theorem lexEnds (files : String → Except ReadFault ByteArray) (color : Bool) (args : List String) :
    (∃ options tokens, Lists files args options tokens) ∨
      ∃ said, lex (.quiet files color) args = .failure "" said ∧ Refusal files color args said := by
  cases parsed : Invocation.ofArgs args with
  | error fault => exact .inr ⟨_, lexRefused parsed, .usage parsed⟩
  | ok invocation =>
    obtain ⟨tokens, lists⟩ | ⟨reason, failed, complaint⟩ := @invokeEnds files color _ _ parsed
    · exact .inl ⟨_, tokens, lists⟩
    · have run := @lexInvoked files color args _ parsed
      rw [failed] at run
      exact .inr ⟨_, run, .complaint parsed (warnsExact.mp rfl) complaint⟩

end Command

theorem tokensClosed {source : String} {mode : Mode} {tokens : List Token}
    (tokenized : tokenize source mode = .ok tokens) :
    ∃ body span, tokens = body ++ [⟨.eof, span⟩] ∧ ∀ t ∈ body, t.isEof = false := by
  obtain ⟨body, u, t, after, lead, asked, final, all, _⟩ := Session.tokensLead rfl tokenized
  obtain ⟨_, same, _⟩ := Session.yieldsEnd asked final
  exact ⟨body, _, same ▸ all, Session.leadBody lead⟩

/-- A run lists all the tokens or none. It succeeds where the arguments are accepted, their text can
be had, a mode is asked for and the text has no fault; then the whole listing is the output and the
warnings are all that is said besides. Otherwise nothing is listed and the reason is said. -/
theorem listsAllOrNothing (files : String → Except ReadFault ByteArray) (color : Bool)
    (args : List String) :
    let out := Command.lex (.quiet files color) args
    (out.exit = 0 ∨ out.exit = 1) ∧
      (out.exit = 0 ↔ ∃ options tokens, Command.Lists files args options tokens) ∧
      (∀ options tokens, Command.Lists files args options tokens →
        (∃ body span, tokens = body ++ [⟨.eof, span⟩] ∧ ∀ t ∈ body, t.isEof = false) ∧
          out.stdout = listing options.format options.spans tokens ∧
          (∃ text, out.stdout = text ++ "\n") ∧
          ∃ warnings, Warns args warnings ∧ out.stderr = unlines (warnings.map Warning.message)) ∧
      (out.exit = 1 → out.stdout = "" ∧ out.stderr ≠ "" ∧ Command.Refusal files color args out.stderr) := by
  intro out
  have ends : (∃ options tokens, Command.Lists files args options tokens) ∨
      ∃ said, out = .failure "" said ∧ Command.Refusal files color args said :=
    Command.lexEnds files color args
  have listed {options tokens} (lists : Command.Lists files args options tokens) :
      out = .success (listing options.format options.spans tokens)
        (unlines ((Options.warnings args).map Warning.message)) := Command.listsLex lists
  refine ⟨?_, ⟨?_, ?_⟩, ?_, ?_⟩
  · obtain ⟨options, tokens, lists⟩ | ⟨said, failed, _⟩ := ends
    · exact .inl (congrArg Outcome.exit (listed lists))
    · exact .inr (congrArg Outcome.exit failed)
  · intro zero
    obtain lists | ⟨said, failed, _⟩ := ends
    · exact lists
    · rw [failed] at zero
      contradiction
  · intro accepted
    obtain ⟨options, tokens, lists⟩ := accepted
    exact congrArg Outcome.exit (listed lists)
  · intro options tokens lists
    have run := listed lists
    obtain ⟨_, _, _, tokenized⟩ := lists
    obtain ⟨body, span, rfl, unended⟩ := tokensClosed tokenized
    rw [run]
    exact ⟨⟨body, span, rfl, unended⟩, rfl, listingEnds _ _ _ _, _, warnsExact.mp rfl, rfl⟩
  · intro one
    obtain ⟨options, tokens, lists⟩ | ⟨said, failed, refusal⟩ := ends
    · rw [listed lists] at one
      contradiction
    · rw [failed]
      exact ⟨rfl, Command.refusalSaid refusal, refusal⟩

theorem unknownNamesListed :
    let disk : Disk := ⟨[(["page.quill".toList], .file "ab 7".toByteArray)]⟩
    let host : Host := ⟨disk.read, false, .silent⟩
    let out := Command.lex host ["--mode=raw", "page.quill", "--format=xml"]
    let late := Command.lex host ["page.quill", "--expr=ab 9.5"]
    out.exit = 0 ∧ out.stdout = "word \"ab\"\nnumber 7\neof\n" ∧
      out.stderr = "warning: unknown mode `raw` (expected `basic` or `extended`), using basic\n" ++
        "warning: unknown format 'xml', options: plain, debug, json\n" ∧
      late.exit = 1 ∧ late.stdout = "" ∧ late.stderr ≠ "" := by
  intro disk host out late
  have quiet : Host.quiet disk.bytes false = host := disk.quiet false
  have parsed : Invocation.ofArgs ["--mode=raw", "page.quill", "--format=xml"] =
      .ok ⟨.file "page.quill", default⟩ := by decide +kernel
  have tokenized : tokenize "ab 7" .basic =
      .ok [⟨.word "ab", ⟨0, 2⟩⟩, ⟨.number 7, ⟨3, 4⟩⟩, ⟨.eof, ⟨4, 4⟩⟩] := by decide +kernel
  have warned : Warns ["--mode=raw", "page.quill", "--format=xml"]
      [.unknownMode ⟨"raw"⟩, .unknownFormat "xml"] := warnsExact.mp (by decide +kernel)
  obtain ⟨_, zero, listed, _⟩ :=
    listsAllOrNothing disk.bytes false ["--mode=raw", "page.quill", "--format=xml"]
  obtain ⟨_, _, _, refused⟩ := listsAllOrNothing disk.bytes false ["page.quill", "--expr=ab 9.5"]
  rw [quiet] at zero listed refused
  have lists := Command.Lists.intro parsed (.file (rfl : disk.bytes "page.quill" = _)) rfl tokenized
  obtain ⟨_, stdout, _, warnings, warns, stderr⟩ := listed _ _ lists
  rw [← warnsExact.mpr warns, warnsExact.mpr warned] at stderr
  have failed : late.exit = 1 := by decide +kernel
  obtain ⟨silent, said, _⟩ := refused failed
  exact ⟨zero.mpr ⟨_, _, lists⟩, stdout.trans (by decide +kernel), stderr.trans (by decide +kernel),
    failed, silent, said⟩

end ModalLexer
