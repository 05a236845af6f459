import ModalLexer.Proofs.Request

/-! Streams: all that pulling gives. A stream is tokens and then one last result, the end of input
or a fault, and the steps of a session are its one stream. -/
namespace ModalLexer
open Unicode (isBlank)

namespace Session

inductive Stream : Session → List Step → Prop where
  | token {s t after steps} (asked : Yields s (.ok t) after) (more : t.isEof = false)
      (later : Stream after steps) : Stream s (⟨.ok t, after⟩ :: steps)
  | last {s result after} (asked : Yields s result after) (final : isLast result = true) :
      Stream s [⟨result, { after with finished := true }⟩]

theorem yieldsFinished {s t : Session} {result : Except Fault Token} (yields : s.Yields result t) :
    t.finished = s.finished := by
  cases yields with
  | exhausted | eof | token => rfl
  | fault => rw [rejectKeeps]; rfl

theorem pullOpen {s : Session} (unfinished : s.finished = false) :
    s.pull = (some s.next.1, { s.next.2 with finished := isLast s.next.1 }) := by
  simp [pull, unfinished]

theorem stepsFinished {s : Session} (finished : s.finished = true) : s.steps = [] := by
  rw [stepsUnfold]
  simp [pull, finished]

theorem stepsNext {s t : Session} {result : Except Fault Token} (unfinished : s.finished = false)
    (asked : s.next = (result, t)) :
    s.steps = ⟨result, { t with finished := isLast result }⟩ ::
      { t with finished := isLast result }.steps := by
  rw [stepsUnfold, pullOpen unfinished, asked]

theorem stepsToken {s after : Session} {t : Token} (unfinished : s.finished = false)
    (asked : s.Yields (.ok t) after) (more : t.isEof = false) :
    after.finished = false ∧ s.steps = ⟨.ok t, after⟩ :: after.steps := by
  have still : after.finished = false := (yieldsFinished asked).trans unfinished
  have same : { after with finished := isLast (.ok t) } = after := by
    rw [isLast, more, ← still]
  rw [stepsNext unfinished (yieldsNext asked), same]
  exact ⟨still, rfl⟩

theorem streamSteps {s : Session} {steps : List Step} (stream : Stream s steps)
    (unfinished : s.finished = false) : s.steps = steps := by
  induction stream with
  | @token s t after steps asked more later ih =>
    obtain ⟨still, first⟩ := stepsToken unfinished asked more
    rw [first, ih still]
  | @last s result after asked final =>
    rw [stepsNext unfinished (yieldsNext asked), final, stepsFinished rfl]

theorem stepsStream {s : Session} (unfinished : s.finished = false) : Stream s s.steps := by
  induction same : s.rest.length using Nat.strongRecOn generalizing s with
  | _ n ih =>
    obtain ⟨result, after, asked⟩ : ∃ result after, s.next = (result, after) := ⟨_, _, rfl⟩
    have yields := nextExact.mp asked
    cases final : isLast result with
    | true =>
      rw [stepsNext unfinished asked, final, stepsFinished rfl]
      exact .last yields final
    | false =>
      cases result with
      | error fault => contradiction
      | ok t =>
        obtain ⟨still, steps⟩ := stepsToken unfinished yields final
        have shorter := nextAdvances (congrArg Prod.fst asked) final
        rw [asked] at shorter
        rw [steps]
        exact .token yields final (ih _ (same ▸ shorter) still rfl)

theorem yieldsUnique {s t u : Session} {result other : Except Fault Token}
    (one : s.Yields result t) (two : s.Yields other u) : other = result ∧ u = t := by
  have same := (yieldsNext two).symm.trans (yieldsNext one)
  exact ⟨congrArg Prod.fst same, congrArg Prod.snd same⟩

theorem streamToken {s after : Session} {t : Token} {steps : List Step} (stream : Stream s steps)
    (asked : s.Yields (.ok t) after) (more : t.isEof = false) :
    ∃ later, steps = ⟨.ok t, after⟩ :: later ∧ Stream after later := by
  cases stream with
  | token other _ later =>
    obtain ⟨result, rfl⟩ := yieldsUnique asked other
    cases result
    exact ⟨_, rfl, later⟩
  | last other final =>
    obtain ⟨rfl, _⟩ := yieldsUnique asked other
    rw [isLast, more] at final
    contradiction

theorem streamLast {s after : Session} {result : Except Fault Token} {steps : List Step}
    (stream : Stream s steps) (asked : s.Yields result after) (final : isLast result = true) :
    steps = [⟨result, { after with finished := true }⟩] := by
  cases stream with
  | token other more later =>
    obtain ⟨rfl, _⟩ := yieldsUnique asked other
    rw [isLast, more] at final
    contradiction
  | last other _ =>
    obtain ⟨rfl, rfl⟩ := yieldsUnique asked other
    rfl

theorem allOk {results : List (Except Fault Token)} {tokens : List Token} :
    results.mapM id = .ok tokens ↔ results = tokens.map .ok := by
  induction results generalizing tokens with
  | nil => cases tokens <;> simp [pure, Except.pure]
  | cons head tail ih =>
    rw [List.mapM_cons]
    cases head with
    | error fault => cases tokens <;> simp [bind, Except.bind]
    | ok t =>
      cases rest : tail.mapM id with
      | error fault =>
        have never (others : List Token) : tail ≠ others.map .ok := by
          intro same
          rw [ih.mpr same] at rest
          contradiction
        cases tokens <;> simp [bind, Except.bind, never]
      | ok others =>
        have injective (more : List Token) :
            others.map (Except.ok (ε := Fault)) = more.map .ok ↔ others = more :=
          List.map_inj_right (fun _ _ equal => Except.ok.inj equal)
        cases tokens <;> simp [bind, Except.bind, pure, Except.pure, ih.mp rest, injective]

theorem firstFault {results : List (Except Fault Token)} {fault : Fault} :
    results.mapM id = .error fault ↔
      ∃ (tokens : List Token) (rest : List (Except Fault Token)),
        results = tokens.map .ok ++ .error fault :: rest := by
  induction results with
  | nil => simp [pure, Except.pure]
  | cons head tail ih =>
    rw [List.mapM_cons]
    cases head with
    | error other =>
      constructor
      · intro same
        cases same
        exact ⟨[], tail, rfl⟩
      · rintro ⟨tokens, rest, same⟩
        cases tokens with
        | nil => cases same; rfl
        | cons t more => simp at same
    | ok t =>
      constructor
      · intro failed
        cases inner : tail.mapM id with
        | error other =>
          have same : other = fault := by simpa [bind, Except.bind, inner] using failed
          obtain ⟨tokens, rest, split⟩ := ih.mp (same ▸ inner)
          exact ⟨t :: tokens, rest, by rw [split]; rfl⟩
        | ok others => simp [bind, Except.bind, inner, pure, Except.pure] at failed
      · rintro ⟨tokens, rest, same⟩
        cases tokens with
        | nil => simp at same
        | cons first more =>
          simp only [List.map_cons, List.cons_append, List.cons.injEq] at same
          simp [bind, Except.bind, ih.mpr ⟨more, rest, same.2⟩]

theorem tokensExact {s : Session} {tokens : List Token} :
    s.tokens = .ok tokens ↔ s.steps.map Step.result = tokens.map .ok := allOk

inductive Lead : Session → List Token → Session → Prop where
  | nil (s) : Lead s [] s
  | cons {s t after tokens u} (asked : Yields s (.ok t) after) (more : t.isEof = false)
      (later : Lead after tokens u) : Lead s (t :: tokens) u

theorem streamLead {s : Session} {steps : List Step} (stream : Stream s steps) :
    ∃ tokens u result after, Lead s tokens u ∧ Yields u result after ∧ isLast result = true ∧
      steps.map Step.result = tokens.map .ok ++ [result] ∧
      (steps.getLast?.map Step.after) = some { after with finished := true } := by
  induction stream with
  | @token s t after steps asked more later ih =>
    obtain ⟨tokens, u, result, last, lead, final, ends, results, state⟩ := ih
    refine ⟨t :: tokens, u, result, last, .cons asked more lead, final, ends, by simp [results], ?_⟩
    cases steps with
    | nil => simp at state
    | cons head tail => rw [List.getLast?_cons_cons]; exact state
  | @last s result after asked final => exact ⟨[], s, result, after, .nil s, asked, final, rfl, rfl⟩

theorem leadBody {s u : Session} {tokens : List Token} (lead : Lead s tokens u) :
    ∀ t ∈ tokens, t.isEof = false := by
  induction lead with
  | nil => simp
  | cons asked more _ ih => exact List.forall_mem_cons.mpr ⟨more, ih⟩

theorem exhaustLast {s u : Session} (state : s.steps.getLast?.map Step.after = some u) :
    s.exhaust = u := by
  obtain ⟨step, last, rfl⟩ := Option.map_eq_some_iff.mp state
  simp [exhaust, last]

theorem tokensLead {s : Session} {tokens : List Token} (unfinished : s.finished = false)
    (ok : s.tokens = .ok tokens) :
    ∃ body u t after, Lead s body u ∧ Yields u (.ok t) after ∧ t.isEof = true ∧
      tokens = body ++ [t] ∧ s.exhaust = { after with finished := true } := by
  obtain ⟨body, u, result, after, lead, asked, final, results, state⟩ :=
    streamLead (stepsStream unfinished)
  rw [tokensExact.mp ok] at results
  cases result with
  | error fault =>
    have failed : s.tokens = .error fault :=
      firstFault.mpr ⟨body, [], (tokensExact.mp ok).trans results⟩
    rw [ok] at failed
    contradiction
  | ok t =>
    refine ⟨body, u, t, after, lead, asked, final, ?_, exhaustLast state⟩
    have same : tokens.map (Except.ok (ε := Fault)) = (body ++ [t]).map .ok := by
      rw [results, List.map_append]
      rfl
    exact (List.map_inj_right fun _ _ equal => Except.ok.inj equal).mp same

theorem faultLead {s : Session} {fault : Fault} (unfinished : s.finished = false)
    (failed : s.tokens = .error fault) :
    ∃ tokens u after, Lead s tokens u ∧ Yields u (.error fault) after := by
  obtain ⟨tokens, u, result, after, lead, asked, _, results, _⟩ :=
    streamLead (stepsStream unfinished)
  cases result with
  | ok t =>
    have whole : s.tokens = .ok (tokens ++ [t]) := by
      rw [tokensExact, results, List.map_append]
      rfl
    rw [failed] at whole
    contradiction
  | error other =>
    have same : s.tokens = .error other := firstFault.mpr ⟨tokens, [], results⟩
    rw [failed] at same
    cases same
    exact ⟨tokens, u, after, lead, asked⟩

theorem leadResults {s u : Session} {tokens : List Token} (lead : Lead s tokens u)
    (unfinished : s.finished = false) :
    u.finished = false ∧ s.results = tokens.map .ok ++ u.results := by
  induction lead with
  | nil => exact ⟨unfinished, rfl⟩
  | @cons s t after tokens u asked more later ih =>
    obtain ⟨still, steps⟩ := stepsToken unfinished asked more
    obtain ⟨last, results⟩ := ih still
    refine ⟨last, ?_⟩
    rw [Session.results, steps, List.map_cons, ← Session.results, results]
    rfl

theorem leadPlaced {s u : Session} {tokens : List Token} (lead : Lead s tokens u)
    (placed : s.Placed) : u.Placed := by
  induction lead with
  | nil => exact placed
  | cons asked _ _ ih => exact ih (yieldsPlaced asked placed)

theorem leadSource {s u : Session} {tokens : List Token} (lead : Lead s tokens u) :
    u.source = s.source := by
  induction lead with
  | nil => rfl
  | cons asked _ _ ih => exact ih.trans (yieldsTaken asked).1

theorem yieldsGoing {s after : Session} {t : Token} (asked : Yields s (.ok t) after)
    (more : t.isEof = false) : after.ended = false := by
  cases asked with
  | eof | token => exact more

theorem leadGoing {s u : Session} {tokens : List Token} (lead : Lead s tokens u)
    (going : s.ended = false) : u.ended = false := by
  induction lead with
  | nil => exact going
  | cons asked more _ ih => exact ih (yieldsGoing asked more)

def lastStop (floor : Nat) (tokens : List Token) : Nat :=
  tokens.foldl (fun _ t => t.span.stop) floor

theorem leadStop {s u : Session} {tokens : List Token} (lead : Lead s tokens u)
    (bounded : s.Bounded) : u.pos = lastStop s.pos tokens := by
  induction lead with
  | nil => rfl
  | cons asked more _ ih =>
    obtain ⟨_, _, _, _, _, _, _, span, same⟩ := yieldsToken asked more bounded
    rw [ih (yieldsBounded asked bounded), lastStop, lastStop, List.foldl_cons, span, same]

theorem exhaustToken {s after : Session} {t : Token} (unfinished : s.finished = false)
    (asked : Yields s (.ok t) after) (more : t.isEof = false) : s.exhaust = after.exhaust := by
  rw [exhaust, exhaust, (stepsToken unfinished asked more).2, List.getLast?_cons]
  cases after.steps.getLast? <;> rfl

theorem leadExhaust {s u : Session} {tokens : List Token} (lead : Lead s tokens u)
    (unfinished : s.finished = false) : s.exhaust = u.exhaust := by
  induction lead with
  | nil => rfl
  | cons asked more _ ih =>
    rw [exhaustToken unfinished asked more, ih (stepsToken unfinished asked more).1]

theorem stepsEof {s : Session} (unfinished : s.finished = false) (going : s.ended = false)
    (gap : ∀ c ∈ s.rest, isBlank c = true) :
    let stop := s.pos + utf8Size s.rest
    ∃ after, s.steps = [⟨.ok ⟨.eof, .between stop stop⟩, after⟩] ∧ after.mode = s.mode :=
  ⟨_, streamSteps (.last (.eof going gap) rfl) unfinished, rfl⟩

theorem leadEof {s u : Session} {tokens : List Token} (lead : Lead s tokens u)
    (unfinished : s.finished = false) (going : s.ended = false)
    (gap : ∀ c ∈ u.rest, isBlank c = true) :
    let stop := u.pos + utf8Size u.rest
    s.tokens = .ok (tokens ++ [⟨.eof, .between stop stop⟩]) ∧ s.exhaust.mode = u.mode := by
  intro stop
  obtain ⟨still, results⟩ := leadResults lead unfinished
  obtain ⟨after, steps, mode⟩ := stepsEof still (leadGoing lead going) gap
  constructor
  · rw [tokensExact, ← Session.results, results, Session.results, steps, List.map_append]
    rfl
  · have last : u.exhaust = after := exhaustLast (by rw [steps]; rfl)
    rw [leadExhaust lead unfinished, last, mode]

end Session
end ModalLexer
