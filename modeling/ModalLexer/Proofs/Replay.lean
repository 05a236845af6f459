import ModalLexer.Proofs.Account
import ModalLexer.Proofs.Bytes
import ModalLexer.Proofs.Outcome
import ModalLexer.Recorder

/-! The journal replays its run. What is written says which tokens came, and the mode at every point
can be told from the changes written so far. A change is written where the session stands, beside
the mark that brings it about, and to keep a log changes nothing that is listed. -/
namespace ModalLexer

open Text (bytes)

namespace Event

def token? : Event → Option Token
  | token t _ => some t
  | modeChange .. => none

def offset? : Event → Option Nat
  | token .. => none
  | modeChange _ _ offset _ => some offset

def replay (mode : Mode) : Event → Mode
  | token .. => mode
  | modeChange _ target _ _ => target

def tokenLine (t : Token) (mode : Mode) : String :=
  " TRACE quill_lexer::tokenizer token, kind=" ++ t.kind.term ++ ", span=" ++
    toString t.span.start ++ ".." ++ toString t.span.stop ++ ", mode=" ++ mode.name

def changeLine (origin target : Mode) (offset : Nat) (cause : String) : String :=
  " DEBUG quill_lexer::tokenizer mode change, from=" ++ origin.name ++ ", to=" ++ target.name ++
    ", at=" ++ toString offset ++ ", cause=" ++ cause

def line : Event → String
  | token t mode => tokenLine t mode
  | modeChange origin target offset .override => changeLine origin target offset "\"override\""
  | modeChange origin target offset .switchMark =>
      changeLine origin target offset "\"mode switch symbol\""
  | modeChange origin target offset .runMetMark =>
      changeLine origin target offset "\"run reached mode switch\""

def ofSteps (origin : Mode) : List Session.Step → List Event
  | [] => []
  | step :: later => ofStep origin step ++ ofSteps step.after.mode later

end Event

def replayed (events : List Event) : Mode := events.foldl Event.replay .basic

inductive Fits (source : String) (before : List Event) : Event → Prop where
  | token (t : Token) : Fits source before (.token t (replayed before))
  | override (first : before = []) :
      Fits source before (.modeChange (replayed before) (replayed before).flipped 0 .override)
  | switchMark {offset} (behind : (bytes source)[offset]? = some markByte) :
      Fits source before
        (.modeChange (replayed before) (replayed before).flipped (offset + 1) .switchMark)
  | runMetMark {offset} (ahead : (bytes source)[offset]? = some markByte) :
      Fits source before
        (.modeChange (replayed before) (replayed before).flipped offset .runMetMark)

structure Faithful (source : String) (events : List Event) (mode : Mode) (pos : Nat) : Prop where
  fits : ∀ front event back, events = front ++ event :: back → Fits source front event
  ordered : (events.filterMap Event.offset?).Pairwise (· ≤ ·)
  reached : ∀ offset ∈ events.filterMap Event.offset?, offset ≤ pos
  mode : replayed events = mode

theorem replayedNext (events : List Event) (event : Event) :
    replayed (events ++ [event]) = Event.replay (replayed events) event := by
  rw [replayed, List.foldl_append]
  rfl

theorem offsetsNext (events : List Event) (event : Event) :
    (events ++ [event]).filterMap Event.offset? =
      events.filterMap Event.offset? ++ event.offset?.toList := by
  cases event <;> simp [Event.offset?]

theorem faithfulStart (source : String) : Faithful source [] .basic 0 := by
  refine ⟨?_, List.Pairwise.nil, by simp, rfl⟩
  intro front event back split
  simp at split

namespace Faithful

variable {source : String} {events : List Event} {mode : Mode} {pos : Nat}

theorem fitsNext (faithful : Faithful source events mode pos) {next : Event}
    (last : Fits source events next) :
    ∀ front event back, events ++ [next] = front ++ event :: back → Fits source front event := by
  intro front event back split
  rcases List.eq_nil_or_concat' back with rfl | ⟨between, tail, rfl⟩
  · obtain ⟨rfl, same⟩ := List.append_inj' split rfl
    cases same
    exact last
  · rw [← List.cons_append, ← List.append_assoc] at split
    exact faithful.fits front event between (List.append_inj' split rfl).1

theorem next (faithful : Faithful source events mode pos) {event : Event}
    (fits : Fits source events event) (further : ∀ offset ∈ event.offset?, pos ≤ offset) :
    Faithful source (events ++ [event]) (Event.replay mode event) (event.offset?.getD pos) := by
  have before (o : Nat) (member : o ∈ events.filterMap Event.offset?) : o ≤ event.offset?.getD pos := by
    have below := faithful.reached o member
    cases event with
    | token => exact below
    | modeChange => exact Nat.le_trans below (further _ rfl)
  have lastPlace (o : Nat) (member : o ∈ event.offset?.toList) : event.offset?.getD pos = o := by
    rw [Option.mem_toList.mp member]
    rfl
  refine ⟨faithful.fitsNext fits, ?_, ?_, ?_⟩
  · rw [offsetsNext, List.pairwise_append]
    refine ⟨faithful.ordered, by cases event <;> simp [Event.offset?], ?_⟩
    intro o member offset last
    rw [← lastPlace offset last]
    exact before o member
  · rw [offsetsNext]
    intro o member
    rcases List.mem_append.mp member with old | last
    · exact before o old
    · exact Nat.le_of_eq (lastPlace o last).symm
  · rw [replayedNext, faithful.mode]

theorem later (faithful : Faithful source events mode pos) {offset : Nat} (further : pos ≤ offset) :
    Faithful source events mode offset :=
  { faithful with reached := fun o member => Nat.le_trans (faithful.reached o member) further }

theorem token (faithful : Faithful source events mode pos) (t : Token) :
    Faithful source (events ++ [.token t mode]) mode pos := by
  have fits : Fits source events (.token t (replayed events)) := .token t
  rw [faithful.mode] at fits
  exact faithful.next fits (by simp [Event.offset?])

theorem turn (faithful : Faithful source events mode pos) {target : Mode} {offset : Nat}
    {trigger : Trigger} (further : pos ≤ offset)
    (fits : mode ≠ target → Fits source events (.modeChange mode target offset trigger)) :
    Faithful source (events ++ Event.ofModes mode target offset trigger) target offset := by
  rw [Event.ofModes]
  split
  · next same =>
    rw [← same, List.append_nil]
    exact faithful.later further
  · next changed => exact faithful.next (fits changed) (by rintro o ⟨⟩; exact further)

end Faithful

theorem byteAhead {source : String} {passed rest : List Char}
    (whole : source.toList = passed ++ rest) (mark : rest.head? = some switchMark) :
    (bytes source)[utf8Size passed]? = some markByte := by
  rw [← List.head?_drop, bytesAhead whole]
  exact (markAhead rest).mpr mark

namespace Session

theorem changeFits {s after : Session} {t : Token} {events : List Event}
    (asked : s.Yields (.ok t) after) (placed : s.Placed) (mode : replayed events = s.mode)
    (changed : s.mode ≠ after.mode) :
    Fits s.source events (.modeChange s.mode after.mode after.pos (Event.triggerOf t)) := by
  obtain ⟨_, taken, front, place⟩ := yieldsTaken asked
  obtain ⟨passed, whole, size⟩ := placed
  cases yieldsEffect asked with
  | @mark blanks same gap split flips =>
    have ends : taken = blanks ++ [switchMark] := by
      apply (List.append_left_inj after.rest).mp
      rw [← front, split, List.append_assoc]
      rfl
    have stop : after.pos = utf8Size (passed ++ blanks) + 1 := by
      rw [place, ends, ← size, utf8SizeAppend, utf8SizeAppend]
      rfl
    rw [split, ← List.append_assoc] at whole
    have fits := @Fits.switchMark s.source events _ (byteAhead whole rfl)
    rw [mode, ← flips, ← stop] at fits
    rwa [Event.triggerOf, if_pos same]
  | @run text same extended next =>
    split at next
    · next ahead =>
      have stop : utf8Size (passed ++ taken) = after.pos := by rw [utf8SizeAppend, size, place]
      rw [front, ← List.append_assoc] at whole
      have fits := @Fits.runMetMark s.source events _ (byteAhead whole ahead)
      rw [mode, stop, extended] at fits
      rw [extended, next, Event.triggerOf, if_neg (by simp [same])]
      exact fits
    · exact absurd (extended.trans next.symm) changed
  | quiet _ _ stays => exact absurd stays.symm changed

def Told (s : Session) (events : List Event) : Prop := Faithful s.source events s.mode s.pos

theorem yieldsTold {s after : Session} {result : Except Fault Token} {events : List Event}
    (asked : s.Yields result after) (placed : s.Placed) (told : s.Told events) :
    after.Told (events ++ Event.ofStep s.mode ⟨result, after⟩) := by
  obtain ⟨same, _, _, place⟩ := yieldsTaken asked
  have further : s.pos ≤ after.pos := place ▸ Nat.le_add_right _ _
  rw [Told, same]
  cases result with
  | error fault =>
    have mode : after.mode = s.mode := by rw [faultKeeps asked]
    rw [Event.ofStep, List.append_nil, mode]
    exact told.later further
  | ok t =>
    rw [Event.ofStep, ← List.append_assoc]
    exact (told.turn further (changeFits asked placed told.mode)).token t

/- By induction on the stream: the journal of the steps, behind a journal that is faithful up to
them, is faithful up to the last of them. -/
theorem streamTold {s : Session} {steps : List Step} (stream : Stream s steps) (placed : s.Placed)
    {events : List Event} (told : s.Told events) {u : Session}
    (state : steps.getLast?.map Step.after = some u) :
    u.source = s.source ∧ u.Told (events ++ Event.ofSteps s.mode steps) := by
  induction stream generalizing events with
  | @token s t after steps asked more later ih =>
    have still : steps.getLast?.map Step.after = some u := by
      cases later with
      | token | last => rwa [List.getLast?_cons_cons] at state
    obtain ⟨source, faithful⟩ := ih (yieldsPlaced asked placed) (yieldsTold asked placed told) still
    rw [List.append_assoc] at faithful
    exact ⟨source.trans (yieldsTaken asked).1, faithful⟩
  | @last s result after asked final =>
    have same : { after with finished := true } = u := Option.some.inj state
    subst same
    have last := yieldsTold asked placed told
    rw [Event.ofSteps, Event.ofSteps, List.append_nil]
    exact ⟨(yieldsTaken asked).1, last⟩

theorem faultResults {s : Session} {fault : Fault} (unfinished : s.finished = false)
    (failed : s.tokens = .error fault) : ∃ tokens : List Token,
      s.results = tokens.map .ok ++ [.error fault] := by
  obtain ⟨tokens, u, after, lead, asked⟩ := faultLead unfinished failed
  obtain ⟨still, results⟩ := leadResults lead unfinished
  refine ⟨tokens, ?_⟩
  rw [results, Session.results, streamSteps (.last asked rfl) still]
  rfl

theorem eventsAlong (origin : Mode) (steps : List Step) :
    ((origin :: steps.map fun step => step.after.mode).zip steps).flatMap
      (fun pair => Event.ofStep pair.1 pair.2) = Event.ofSteps origin steps := by
  induction steps generalizing origin with
  | nil => rfl
  | cons step later ih =>
    rw [List.map_cons, List.zip_cons_cons, List.flatMap_cons, ih]
    rfl

theorem eventsExact (s : Session) : s.events = Event.ofSteps s.mode s.steps :=
  eventsAlong s.mode s.steps

end Session

namespace Recorder

theorem streamDrain {s : Session} {steps : List Session.Step} (stream : Session.Stream s steps)
    (unfinished : s.finished = false) (events : List Event) :
    (Recorder.mk s events).drain.events = events ++ Event.ofSteps s.mode steps := by
  induction stream generalizing events with
  | @token s t after steps asked more later ih =>
    have still : after.finished = false := (Session.yieldsFinished asked).trans unfinished
    have pulled : s.pull = (some (.ok t), after) := by
      rw [Session.pullOpen unfinished, Session.yieldsNext asked, Session.isLast, more, ← still]
    rw [drainUnfold, pulled]
    dsimp only [follow]
    rw [ih still, List.append_assoc]
    rfl
  | @last s result after asked final =>
    have pulled : s.pull = (some result, { after with finished := true }) := by
      rw [Session.pullOpen unfinished, Session.yieldsNext asked, final]
    rw [drainUnfold, pulled]
    dsimp only [follow]
    rw [drainUnfold, Session.pull, if_pos rfl, Event.ofSteps, Event.ofSteps, List.append_nil]

end Recorder

theorem modesTokens (origin target : Mode) (offset : Nat) (trigger : Trigger) :
    (Event.ofModes origin target offset trigger).filterMap Event.token? = [] := by
  rw [Event.ofModes]
  split <;> rfl

theorem stepsTokens (origin : Mode) (steps : List Session.Step) :
    (Event.ofSteps origin steps).filterMap Event.token? =
      (steps.map Session.Step.result).filterMap Except.toOption := by
  induction steps generalizing origin with
  | nil => rfl
  | cons step later ih =>
    obtain ⟨result, after⟩ := step
    rw [Event.ofSteps, List.filterMap_append, ih, Event.ofStep]
    cases result with
    | error fault => rfl
    | ok t =>
      rw [List.filterMap_append, modesTokens]
      rfl

theorem overrideTold (source : String) (mode : Mode) :
    (Session.start source mode).Told (Event.ofModes .basic mode 0 .override) := by
  refine (faithfulStart source).turn (Nat.le_refl 0) ?_
  intro changed
  cases mode with
  | basic => contradiction
  | extended => exact .override rfl

theorem Options.eventsOf {options : Options} {mode : Mode} (asked : options.mode = some mode)
    (source : String) : options.events source = Event.ofModes .basic mode 0 .override ++
      Event.ofSteps mode (Session.start source mode).steps := by
  rw [Options.events, Options.session, asked]
  exact congrArg _ (Session.eventsExact (Session.start source mode))

theorem Options.recordedEvents (options : Options) (source : String) :
    options.recorded source = options.events source := by
  cases asked : options.mode with
  | none => rw [Options.recorded, Options.events, Options.session, asked]; rfl
  | some mode =>
    rw [Options.eventsOf asked, Options.recorded, asked]
    exact Recorder.streamDrain (Session.stepsStream (s := Session.start source mode) rfl) rfl _

theorem Options.eventsTokens {options : Options} {mode : Mode} (asked : options.mode = some mode)
    (source : String) : (options.events source).filterMap Event.token? =
      (Session.start source mode).results.filterMap Except.toOption := by
  rw [Options.eventsOf asked, List.filterMap_append, modesTokens, List.nil_append, stepsTokens]
  rfl

theorem Options.eventsTold {options : Options} {mode : Mode} (asked : options.mode = some mode)
    (source : String) : let last := (Session.start source mode).exhaust
    Faithful source (options.events source) last.mode last.pos := by
  have stream := Session.stepsStream (s := .start source mode) rfl
  obtain ⟨_, _, _, after, _, _, _, _, state⟩ := Session.streamLead stream
  obtain ⟨same, told⟩ := Session.streamTold stream (Session.startPlaced source mode)
    (overrideTold source mode) state
  rw [Session.Told, same] at told
  rw [Session.exhaustLast state, Options.eventsOf asked]
  exact told

theorem oksTokens (tokens : List Token) :
    (tokens.map (Except.ok (ε := Fault))).filterMap Except.toOption = tokens := by
  rw [List.filterMap_map]
  exact List.filterMap_some

def sessionDirective : Directive := ⟨some "quill_lexer", none, none, .trace⟩

theorem sessionFilter : Filter.ofText "quill_lexer=trace" = ⟨[sessionDirective], []⟩ := by
  decide +kernel

theorem sessionHeard (event : Event) :
    Filter.hears ⟨[sessionDirective], []⟩ event.entry.site = true := by
  cases event <;> dsimp only [Event.entry, Entry.site, List.map] <;> decide +kernel

theorem runUnreached : sessionDirective.reaches runTarget = false := by decide +kernel

theorem runUnshown (options : Options) (source : String) :
    Filter.shows ⟨[sessionDirective], []⟩ (options.logSpan source) = false := by
  simp [Filter.shows, Filter.marksOn, Directive.fits, Directive.coversSpan, Options.logSpan,
    runUnreached, Filter.ruling]

theorem runUnheard {options : Options} {source : String} {entry : Entry}
    (closing : options.closing? source = some entry) :
    Filter.hears ⟨[sessionDirective], []⟩ entry.site = false := by
  have target : entry.target = runTarget := by
    unfold Options.closing? at closing
    split at closing <;> cases closing
    rfl
  simp [Filter.hears, Directive.coversSite, Entry.site, target, runUnreached, Filter.ruling]

theorem sessionEntries (options : Options) (source : String) :
    Filter.heard ⟨[sessionDirective], []⟩ options source =
      (options.events source).map Event.entry := by
  have closed : (options.closing? source).toList.filter
      (fun entry => Filter.hears ⟨[sessionDirective], []⟩ entry.site) = [] := by
    rw [List.filter_eq_nil_iff]
    intro entry member
    rw [runUnheard (Option.mem_toList.mp member)]
    exact Bool.false_ne_true
  simp only [Filter.heard, Options.entries, Filter.hearsIn, runUnshown, Bool.false_and, Bool.or_false,
    List.filter_append, closed, List.append_nil, List.filter_map, Function.comp_def, sessionHeard,
    List.filter_true]

theorem sessionAround (options : Options) (source : String) :
    Filter.around? ⟨[sessionDirective], []⟩ options source = none := by
  simp only [Filter.around?, runUnshown, Bool.false_eq_true, if_false]

theorem tokenWritten (t : Token) (mode : Mode) :
    (Event.token t mode).entry.treeLine = Event.tokenLine t mode := by
  have lead : " TRACE quill_lexer::tokenizer token, kind=" =
      " " ++ Level.trace.name ++ " " ++ sessionTarget ++ " " ++ "token" ++ ", " ++ "kind" ++ "=" := by
    decide +kernel
  have span : ", span=" = ", " ++ "span" ++ "=" := by decide +kernel
  have closing : ", mode=" = ", " ++ "mode" ++ "=" := by decide +kernel
  -- To rewrite by the definition would have its equation proved by running the texts in it.
  delta Event.tokenLine
  rewrite [lead, span, closing, Event.entry, Entry.treeLine, Entry.parts, Span.text]
  simp only [List.map_cons, List.map_nil, String.intercalate_cons_cons, String.intercalate_singleton,
    String.append_assoc]

theorem changeWritten (origin target : Mode) (offset : Nat) (trigger : Trigger) :
    (Event.modeChange origin target offset trigger).entry.treeLine =
      Event.changeLine origin target offset (Text.Quoted.string trigger.text) := by
  have lead : " DEBUG quill_lexer::tokenizer mode change, from=" =
      " " ++ Level.debug.name ++ " " ++ sessionTarget ++ " " ++ "mode change" ++ ", " ++ "from" ++
        "=" := by
    decide +kernel
  have upto : ", to=" = ", " ++ "to" ++ "=" := by decide +kernel
  have place : ", at=" = ", " ++ "at" ++ "=" := by decide +kernel
  have closing : ", cause=" = ", " ++ "cause" ++ "=" := by decide +kernel
  delta Event.changeLine
  rewrite [lead, upto, place, closing, Event.entry, Entry.treeLine, Entry.parts]
  simp only [List.map_cons, List.map_nil, String.intercalate_cons_cons, String.intercalate_singleton,
    String.append_assoc]

theorem lineWritten (event : Event) : event.entry.treeLine = event.line := by
  cases event with
  | token t mode => exact tokenWritten t mode
  | modeChange origin target offset trigger =>
    rw [changeWritten]
    cases trigger with
    | override => exact congrArg _ (by decide +kernel)
    | switchMark => exact congrArg _ (by decide +kernel)
    | runMetMark => exact congrArg _ (by decide +kernel)

theorem treeLines (options : Options) (source : String) :
    (Log.ofSettings (some "quill_lexer=trace") true).lines options source =
      (options.events source).map Event.line := by
  simp only [Log.ofSettings, Option.map_some, sessionFilter, if_true, Log.lines, Filter.tree,
    sessionAround, sessionEntries, List.map_map, Function.comp_def, lineWritten]

theorem plainLines (options : Options) (source : String)
    (write : Nat → Option LogSpan → Entry → String) :
    (Log.ofSettings (some "quill_lexer=trace") false write).lines options source =
      (options.events source).zipIdx.map fun (event, n) => write n none event.entry := by
  simp only [Log.ofSettings, Option.map_some, sessionFilter, Bool.false_eq_true, if_false, Log.lines,
    Filter.plain, sessionAround, sessionEntries, List.zipIdx_map, List.map_map]
  rfl

namespace Command

theorem logAside (host : Host) (args : List String) (log : Log) :
    let logged := run { host with log := log } args
    logged.exit = (run host args).exit ∧ logged.stdout = (run host args).stdout := by
  simp only [run, Plan.run]
  cases plan args with
  | settled outcome => exact ⟨rfl, rfl⟩
  | list invocation warnings =>
    simp only [Plan.carryOut, invoke]
    have same : textOf { host with log := log } invocation.input = textOf host invocation.input := by
      cases invocation.input <;> rfl
    rw [same]
    cases textOf host invocation.input with
    | error message => exact ⟨rfl, rfl⟩
    | ok source =>
      dsimp only [listSource]
      cases invocation.options.list source <;> exact ⟨rfl, rfl⟩

end Command

/-- The journal of a run has its tokens in order, also those before a fault. Each event fits behind
the events before it, the places of changes ascend, and the log of a session shows all of it: in a
tree each event by its line, and else each by what the host writes of it. -/
theorem journalReplays (options : Options) (source : String) (mode : Mode)
    (asked : options.mode = some mode) :
    let events := options.events source
    let told := events.filterMap Event.token?
    options.recorded source = events ∧
      (∀ tokens, options.tokens source = .ok tokens → told = tokens) ∧
      (∀ fault, options.tokens source = .error fault →
        (Session.start source mode).results = told.map .ok ++ [.error fault]) ∧
      (∀ front event back, events = front ++ event :: back → Fits source front event) ∧
      (events.filterMap Event.offset?).Pairwise (· ≤ ·) ∧
      replayed events = (Session.start source mode).exhaust.mode ∧
      (Log.ofSettings (some "quill_lexer=trace") true).lines options source =
        events.map Event.line ∧
      (∀ write, (Log.ofSettings (some "quill_lexer=trace") false write).lines options source =
        events.zipIdx.map fun (event, n) => write n none event.entry) ∧
      ∀ (host : Host) (args : List String) (log : Log),
        let logged := Command.run { host with log := log } args
        logged.exit = (Command.run host args).exit ∧
          logged.stdout = (Command.run host args).stdout := by
  intro events told
  have said : told = (Session.start source mode).results.filterMap Except.toOption :=
    Options.eventsTokens asked source
  have faithful := Options.eventsTold asked source
  refine ⟨Options.recordedEvents options source, ?_, ?_, faithful.fits, faithful.ordered,
    faithful.mode, treeLines options source, plainLines options source, Command.logAside⟩
  · intro tokens ok
    rw [Options.tokensModed asked] at ok
    rw [said, Session.results, Session.tokensExact.mp ok, oksTokens]
  · intro fault failed
    rw [Options.tokensModed asked] at failed
    obtain ⟨tokens, results⟩ := Session.faultResults rfl failed
    have before : told = tokens := by
      rw [said, results, List.filterMap_append, oksTokens]
      exact List.append_nil tokens
    rw [before, results]

theorem marksReplayed :
    let options : Options := ⟨some .extended, .plain, false⟩
    let source := "a## \\q"
    let events : List Event :=
      [.modeChange .basic .extended 0 .override, .modeChange .extended .basic 1 .runMetMark,
        .token ⟨.word "a", ⟨0, 1⟩⟩ .basic, .modeChange .basic .extended 2 .switchMark,
        .token ⟨.symbol '#', ⟨1, 2⟩⟩ .extended, .modeChange .extended .basic 3 .switchMark,
        .token ⟨.symbol '#', ⟨2, 3⟩⟩ .basic]
    options.mode = some .extended ∧ options.recorded source = events ∧
      (Session.start source .extended).results =
        [.ok ⟨.word "a", ⟨0, 1⟩⟩, .ok ⟨.symbol '#', ⟨1, 2⟩⟩, .ok ⟨.symbol '#', ⟨2, 3⟩⟩,
          .error (.escapedLetter ⟨4, 6⟩ 'q' 4)] ∧
      Fits source (events.take 1) (.modeChange .extended .basic 1 .runMetMark) ∧
      replayed events = (Session.start source .extended).exhaust.mode ∧
      (Log.ofSettings (some "quill_lexer=trace") true).lines options source =
        [" DEBUG quill_lexer::tokenizer mode change, from=basic, to=extended, at=0, " ++
            "cause=\"override\"",
          " DEBUG quill_lexer::tokenizer mode change, from=extended, to=basic, at=1, " ++
            "cause=\"run reached mode switch\"",
          " TRACE quill_lexer::tokenizer token, kind=Word(\"a\"), span=0..1, mode=basic",
          " DEBUG quill_lexer::tokenizer mode change, from=basic, to=extended, at=2, " ++
            "cause=\"mode switch symbol\"",
          " TRACE quill_lexer::tokenizer token, kind=Symbol('#'), span=1..2, mode=extended",
          " DEBUG quill_lexer::tokenizer mode change, from=extended, to=basic, at=3, " ++
            "cause=\"mode switch symbol\"",
          " TRACE quill_lexer::tokenizer token, kind=Symbol('#'), span=2..3, mode=basic"] := by
  intro options source events
  have written : options.events source = events := by decide +kernel
  have failed : options.tokens source = .error (.escapedLetter ⟨4, 6⟩ 'q' 4) := by decide +kernel
  obtain ⟨recorded, _, faults, fits, _, modes, lines, _⟩ :=
    journalReplays options source .extended rfl
  have results := faults _ failed
  rw [written] at recorded results fits modes lines
  exact ⟨rfl, recorded, results, fits _ _ _ rfl, modes, lines.trans (by decide +kernel)⟩

end ModalLexer
