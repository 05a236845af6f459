import ModalLexer.Proofs.Diagnosis
import ModalLexer.Proofs.Outcome
import ModalLexer.Proofs.Roles

/-! Routes to a listing. A source path may stand in place of the command, and the text of a file may
be given in its place; what is printed is the same, but for the name that a diagnostic gives. -/
namespace ModalLexer

open Text

def Host.holding (files : String → Except ReadFault ByteArray) (color : Bool) (log : Log) : Host :=
  { Host.quiet files color with log := log }

theorem unlinesHead (line : String) (lines : List String) :
    unlines (line :: lines) = line ++ ("\n" ++ unlines lines) := by
  simp [unlines, String.append_assoc]

namespace Diagnostic

inductive Renamed (old new : String) : String → String → Prop where
  | same (text : String) : Renamed old new text text
  | location (front : String) (line : Line) (offset : Nat) (back : String) :
      Renamed old new (front ++ (location old line offset ++ back))
        (front ++ (location new line offset ++ back))

theorem renamedBehind {old new one two : String} (renamed : Renamed old new one two)
    (front : String) : Renamed old new (front ++ one) (front ++ two) := by
  cases renamed with
  | same => exact .same _
  | location further line offset back =>
    have moved (rest : String) : front ++ (further ++ rest) = front ++ further ++ rest :=
      String.append_assoc.symm
    rw [moved, moved]
    exact .location (front ++ further) line offset back

theorem renamedBefore {old new one two : String} (renamed : Renamed old new one two)
    (back : String) : Renamed old new (one ++ back) (two ++ back) := by
  cases renamed with
  | same => exact .same _
  | location front line offset further =>
    simp only [String.append_assoc]
    exact .location front line offset (further ++ back)

theorem locationRenamed (old new : String) (width : Nat) (first : Line) (start : Nat) (color : Bool) :
    Renamed old new ((locationRow width old first start).render color)
      ((locationRow width new first start).render color) := by
  have shown (name : String) : (locationRow width name first start).render color =
      Row.render color [bare (spaces (width + 2)), ink .frame "╭", ink .frame "─", ink .frame "["] ++
        (location name first start ++ Row.render color [ink .frame "]"]) := by
    simp [locationRow, location, Row.render, bare, Ink.render, String.append_assoc]
  rw [shown, shown]
  exact .location _ first start _

theorem renderRenamed (old new source : String) (f : Fault) (color : Bool) :
    Renamed old new (render old source f color) (render new source f color) := by
  simp only [render, rows]
  split
  · next first last _ _ =>
    simp only [List.cons_append, List.nil_append, List.map_cons, unlinesHead]
    exact renamedBehind (renamedBehind
      (renamedBefore (locationRenamed old new _ first f.span.start color) _) _) _
  · exact .same _

end Diagnostic

namespace Command

variable {files : String → Except ReadFault ByteArray} {color : Bool} {log : Log}

def preface (log : Log) (flags : List String) (text : String) : String :=
  unlines log.refusals ++ (unlines ((Options.warnings flags).map Warning.message) ++
    unlines (log.lines (.ofArgs flags) text))

inductive Tells (log : Log) (color : Bool) (flags : List String) (name text : String) :
    Outcome → Prop where
  | listed {tokens} (read : (Options.ofArgs flags).tokens text = .ok tokens) :
      Tells log color flags name text ⟨0,
        listing (Options.ofArgs flags).format (Options.ofArgs flags).spans tokens,
        preface log flags text⟩
  | failed {fault} (read : (Options.ofArgs flags).tokens text = .error fault) :
      Tells log color flags name text ⟨1, "",
        preface log flags text ++ Diagnostic.render name text fault color⟩

theorem flagsRead (input : Input) {flags : List String} (dashed : ∀ arg ∈ flags, Plays arg .flag) :
    Invocation.inputFrom (some input) flags = .ok input := by
  induction flags with
  | nil => rfl
  | cons arg flags ih =>
    obtain ⟨here, later⟩ := List.forall_mem_cons.mp dashed
    rw [Invocation.inputFrom, rolesExact.mpr here]
    exact ih later

theorem leadPlan {arg : String} {input : Input} {flags : List String}
    (reads : Invocation.inputFrom none [arg] = .ok input)
    (dashed : ∀ arg ∈ flags, Plays arg .flag) :
    lexPlan (arg :: flags) = .list ⟨input, .ofArgs flags⟩ (Options.warnings flags) := by
  have unflagged : Role.ofArg arg ≠ .flag := by
    intro flag
    rw [Invocation.inputFrom, flag] at reads
    contradiction
  have idle := unflaggedSets unflagged
  have options : Options.ofArgs (arg :: flags) = .ofArgs flags := by
    rw [Options.ofArgs, List.map_cons, List.foldl_cons, idle]
    rfl
  have warnings : Options.warnings (arg :: flags) = Options.warnings flags := by
    rw [Options.warningsCons, idle]
    rfl
  have found : Invocation.inputFrom none (arg :: flags) = .ok input := by
    rw [Invocation.inputFrom] at reads ⊢
    cases role : Role.ofArg arg with
    | flag => contradiction
    | inline | positional =>
      rw [role] at reads
      cases reads
      exact flagsRead _ dashed
  rw [lexPlan, Invocation.ofArgsExact, found, Invocation.flagsWarn, options, warnings]
  rfl

theorem planTells {input : Input} {text : String} (available : Available files input text)
    (flags : List String) : Tells log color flags input.name text
      ((Plan.list ⟨input, .ofArgs flags⟩ (Options.warnings flags)).run
        (.holding files color log)) := by
  have found : textOf (.holding files color log) input = .ok text :=
    @availableText files color input text available
  simp only [Plan.run, Plan.carryOut, invoke, found, listSource, Options.list]
  cases read : (Options.ofArgs flags).tokens text with
  | ok tokens => exact .listed read
  | error fault =>
    have tells := @Tells.failed log color flags input.name text fault read
    simp only [preface, String.append_assoc] at tells
    exact tells

theorem tellsRenamed {flags : List String} {old new text : String} {one two : Outcome}
    (first : Tells log color flags old text one) (second : Tells log color flags new text two) :
    two.exit = one.exit ∧ two.stdout = one.stdout ∧
      Diagnostic.Renamed old new one.stderr two.stderr := by
  cases first with
  | listed read =>
    cases second with
    | listed other =>
      cases read.symm.trans other
      exact ⟨rfl, rfl, .same _⟩
    | failed other => cases read.symm.trans other
  | failed read =>
    cases second with
    | listed other => cases read.symm.trans other
    | failed other =>
      cases read.symm.trans other
      exact ⟨rfl, rfl, Diagnostic.renamedBehind (Diagnostic.renderRenamed old new text _ color) _⟩

theorem lexRun {host : Host} {arg : String} (args : List String) :
    run host ("lex" :: arg :: args) = (lexPlan (arg :: args)).run host := by
  rw [run, plan, if_pos rfl, if_neg (List.cons_ne_nil arg args)]

theorem pathRun {host : Host} {path : String} (source : isSourcePath path = true) (args : List String) :
    run host (path :: args) = (lexPlan (path :: args)).run host := by
  have apart {word : String} (other : isSourcePath word = false) : path ≠ word := by
    rintro rfl
    rw [other] at source
    contradiction
  have noLex : path ≠ "lex" := apart (by decide)
  have noHelp : path ∉ ["help", "--help", "-h"] := by
    simp only [List.mem_cons, List.not_mem_nil, or_false, not_or]
    exact ⟨apart (by decide), apart (by decide), apart (by decide)⟩
  have noVersion : path ∉ ["version", "--version", "-v"] := by
    simp only [List.mem_cons, List.not_mem_nil, or_false, not_or]
    exact ⟨apart (by decide), apart (by decide), apart (by decide)⟩
  rw [run, plan, if_neg noLex, if_neg noHelp, if_neg noVersion, if_pos source]

end Command

/-- A source path is listed with the command before it and without, and given in its place the text of
the file is listed the same. All routes tell of that very text; only the name of a place differs.
The log is any log. Where its lines bear the time, both routes are taken at the same times. -/
theorem routesAgree (files : String → Except ReadFault ByteArray) (color : Bool) (log : Log)
    (path text : String) (flags : List String) (ending : List Char)
    (dashless : path.toList.head? ≠ some '-') (extension : Path.extension? path = some ending)
    (quill : ending.map Char.toLower = "quill".toList) (found : files path = .ok text.toByteArray)
    (dashed : ∀ arg ∈ flags, arg.toList.head? = some '-' ∧ ∀ value, arg ≠ "--expr=" ++ value) :
    let host := Host.holding files color log
    let bare := Command.run host (path :: flags)
    let named := Command.run host ("lex" :: path :: flags)
    let inlined := Command.run host ("lex" :: ("--expr=" ++ text) :: flags)
    bare = named ∧ Command.Tells log color flags path text named ∧
      Command.Tells log color flags "<expr>" text inlined ∧ inlined.exit = named.exit ∧
      inlined.stdout = named.stdout ∧
      Diagnostic.Renamed path "<expr>" named.stderr inlined.stderr := by
  intro host bare named inlined
  have source : Command.isSourcePath path = true := by
    rw [Command.isSourcePath, extension]
    exact decide_eq_true quill
  have plays : ∀ arg ∈ flags, Plays arg .flag := by
    intro arg member
    obtain ⟨dash, apart⟩ := dashed arg member
    exact .flag apart dash
  have file : Invocation.inputFrom none [path] = .ok (.file path) := by
    rw [Invocation.inputFrom, rolesExact.mpr (.positional dashless)]
    rfl
  have inline : Invocation.inputFrom none ["--expr=" ++ text] = .ok (.inline text) := by
    rw [Invocation.inputFrom, rolesExact.mpr (.inline text)]
    rfl
  have first : Command.Tells log color flags path text named := by
    have tells := @Command.planTells files color log _ _ (.file found) flags
    rwa [← Command.leadPlan file plays, ← Command.lexRun] at tells
  have second : Command.Tells log color flags "<expr>" text inlined := by
    have tells := @Command.planTells files color log _ _ (.inline text) flags
    rwa [← Command.leadPlan inline plays, ← Command.lexRun] at tells
  have same : bare = named := (Command.pathRun source flags).trans (Command.lexRun flags).symm
  exact ⟨same, first, second, Command.tellsRenamed first second⟩

theorem faultUnderNames :
    let mark := "\uFEFFa\r\n"
    let slip := "\r\n x\\q"
    let disk : Disk := ⟨[(["p".toList, "A.QuilL".toList], .file mark.toByteArray),
      (["b.quill".toList], .file slip.toByteArray)]⟩
    let log : Log := ⟨some ⟨[⟨some "quill_lexer", none, none, .trace⟩], []⟩,
      .plain fun n _ entry => toString n ++ "s " ++ entry.message⟩
    let host := Host.holding disk.bytes false log
    let listed := Command.run host ["p/A.QuilL", "--spans"]
    let failed := Command.run host ["lex", "b.quill", "--mode=raw"]
    let inlined := Command.run host ["lex", "--expr=" ++ slip, "--mode=raw"]
    disk.bytes "p/A.QuilL" = .ok mark.toByteArray ∧ disk.bytes "b.quill" = .ok slip.toByteArray ∧
      listed = Command.run host ["lex", "p/A.QuilL", "--spans"] ∧
      listed.stdout = "symbol '\\u\x7bfeff\x7d'        0..3\n" ++
        "word \"a\"                 3..4\neof                      6..6\n" ∧
      listed.stderr = "0s token\n1s token\n2s token\n" ∧
      Command.run host ["b.quill", "--mode=raw"] = failed ∧ inlined.exit = failed.exit ∧
      inlined.stdout = failed.stdout ∧
      Diagnostic.Renamed "b.quill" "<expr>" failed.stderr inlined.stderr ∧
      failed.stderr ≠ inlined.stderr := by
  intro mark slip disk log host listed failed inlined
  have first : disk.bytes "p/A.QuilL" = .ok mark.toByteArray := rfl
  have second : disk.bytes "b.quill" = .ok slip.toByteArray := rfl
  have spans : ∀ arg ∈ ["--spans"], arg.toList.head? = some '-' ∧ ∀ value, arg ≠ "--expr=" ++ value :=
    List.forall_mem_singleton.mpr ⟨by decide, valueNone.mp (by decide)⟩
  have raw : ∀ arg ∈ ["--mode=raw"], arg.toList.head? = some '-' ∧ ∀ value, arg ≠ "--expr=" ++ value :=
    List.forall_mem_singleton.mpr ⟨by decide, valueNone.mp (by decide)⟩
  obtain ⟨bare, _⟩ := routesAgree disk.bytes false log "p/A.QuilL" mark ["--spans"] "QuilL".toList
    (by decide) (by decide) (by decide) first spans
  obtain ⟨same, _, _, exit, stdout, renamed⟩ := routesAgree disk.bytes false log "b.quill" slip
    ["--mode=raw"] "quill".toList (by decide) (by decide) (by decide) second raw
  exact ⟨first, second, bare, by decide +kernel, by decide +kernel, same, exit, stdout, renamed,
    by decide +kernel⟩

end ModalLexer
