import ModalLexer.Proofs.Account
import ModalLexer.Proofs.Bounds
import ModalLexer.Proofs.Interleaving

/-! Progress. Every token but the last takes a character that is no blank off the front of the text,
and nothing puts one back; so the characters that are no blank bound the tokens, whatever is called. -/
namespace ModalLexer
open Unicode (isBlank)

def unblanks (text : List Char) : Nat := text.countP (fun c => !isBlank c)

namespace Session

def asks (s : Session) : List Call → List Turn
  | [] => []
  | call :: later =>
    let (reply, after) := s.answer call
    (reply.result?.map (fun result => ⟨s, ⟨result, after⟩⟩)).toList ++ after.asks later

def Turn.isBody (t : Turn) : Bool := !isLast t.step.result

structure Consumes (source : String) (t : Turn) : Prop where
  token : ∃ token, t.step.result = .ok token ∧ token.isEof = false ∧
    token.span = .between t.start t.stop
  char : ∃ before c after, source.toList = before ++ c :: after ∧ t.start ≤ utf8Size before ∧
    utf8Size before + c.utf8Size ≤ t.stop ∧ isBlank c = false

variable {s t : Session}

theorem asksCons (s : Session) (call : Call) (later : List Call) :
    s.asks (call :: later) =
      ((s.answer call).1.result?.map
        (fun result => Turn.mk s ⟨result, (s.answer call).2⟩)).toList ++
        (s.answer call).2.asks later := rfl

theorem yieldsLexeme {token : Token} (asked : s.Yields (.ok token) t) (more : token.isEof = false) :
    ∃ blanks lexeme, s.rest = blanks ++ (lexeme ++ t.rest) ∧ (∀ c ∈ blanks, isBlank c = true) ∧
      (∀ c ∈ lexeme.head?, isBlank c = false) ∧ lexeme ≠ [] ∧
      token.span = .between (s.pos + utf8Size blanks) (s.pos + utf8Size blanks + utf8Size lexeme) ∧
      t.pos = s.pos + utf8Size blanks + utf8Size lexeme := by
  obtain ⟨blanks, lexeme, split, gap, first, rule, span, same⟩ := yieldsRule asked more
  exact ⟨blanks, lexeme, split, gap, first, ruleFilled rule, span, by rw [same]⟩

theorem yieldsUnblanks {result : Except Fault Token} (asked : s.Yields result t) :
    unblanks t.rest + (if isLast result then 0 else 1) ≤ unblanks s.rest := by
  cases final : isLast result with
  | true =>
    obtain ⟨_, taken, front, _⟩ := yieldsTaken asked
    rw [front, unblanks, unblanks, List.countP_append]
    exact Nat.le_add_left _ _
  | false =>
    cases result with
    | error fault => contradiction
    | ok token =>
      obtain ⟨blanks, lexeme, split, _, first, filled, _⟩ := yieldsLexeme asked final
      obtain ⟨c, more, rfl⟩ := List.exists_cons_of_ne_nil filled
      have head : isBlank c = false := first c rfl
      simp only [split, unblanks, List.countP_append, List.cons_append, List.countP_cons, head]
      simp only [Bool.not_false, if_true, Bool.false_eq_true, if_false]
      omega

theorem answerAsked (s : Session) (call : Call) :
    (∃ after finished, s.Yields s.next.1 after ∧ (s.answer call).1.result? = some s.next.1 ∧
        (s.answer call).2 = after.marked finished) ∨
      ((s.answer call).1.result? = none ∧ (s.answer call).2.rest = s.rest) := by
  cases call with
  | next => exact .inl ⟨s.next.2, s.next.2.finished, s.nextYields, rfl, rfl⟩
  | pull =>
    cases closed : s.finished with
    | true => rw [pullClosed closed]; exact .inr ⟨rfl, rfl⟩
    | false => rw [pullAsks closed]; exact .inl ⟨s.next.2, _, s.nextYields, rfl, rfl⟩
  | setMode mode => cases mode <;> exact .inr ⟨rfl, rfl⟩

theorem asksUnblanks (s : Session) (calls : List Call) :
    ((s.asks calls).filter Turn.isBody).length ≤ unblanks s.rest := by
  induction calls generalizing s with
  | nil => exact Nat.zero_le _
  | cons call later ih =>
    have tail := ih (s.answer call).2
    rw [asksCons]
    rcases answerAsked s call with ⟨after, finished, asked, given, same⟩ | ⟨none, kept⟩
    · have fewer := yieldsUnblanks asked
      rw [same] at tail ⊢
      rw [given, Option.map_some, Option.toList_some, List.cons_append, List.filter_cons]
      cases final : isLast s.next.1 with
      | true =>
        rw [if_neg (by simp [Turn.isBody, final])]
        rw [final, if_pos rfl] at fewer
        exact Nat.le_trans tail fewer
      | false =>
        rw [if_pos (by simp [Turn.isBody, final]), List.length_cons]
        rw [final, if_neg Bool.false_ne_true] at fewer
        exact Nat.le_trans (Nat.succ_le_succ tail) fewer
    · rw [kept] at tail
      rw [none]
      exact tail

theorem skipForward (s : Session) : s.pos ≤ s.skipBlanks.pos := Nat.le_add_right _ _

theorem asksAbove (s : Session) (calls : List Call) : ∀ t ∈ s.asks calls, s.pos ≤ t.start := by
  induction calls generalizing s with
  | nil => simp [asks]
  | cons call later ih =>
    intro t member
    rw [asksCons] at member
    rcases List.mem_append.mp member with here | there
    · obtain ⟨result, _, rfl⟩ := by simpa using here
      exact skipForward s
    · exact Nat.le_trans (answerForward s call) (ih _ t there)

theorem asksApart (s : Session) (calls : List Call) :
    (s.asks calls).Pairwise fun t later => t.stop ≤ later.start := by
  induction calls generalizing s with
  | nil => exact .nil
  | cons call later ih =>
    rw [asksCons]
    cases (s.answer call).1.result? with
    | none => exact ih _
    | some result => exact .cons (asksAbove (s.answer call).2 later) (ih _)

theorem askedTurn {source : String} {calls : List Call} (reached : Reached source s) :
    ∀ t ∈ s.asks calls, Reached source t.before ∧
      ∃ after finished, t.before.Yields t.step.result after ∧ t.step.after = after.marked finished := by
  induction calls generalizing s with
  | nil => simp [asks]
  | cons call later ih =>
    intro t member
    rw [asksCons] at member
    rcases List.mem_append.mp member with here | there
    · rcases answerAsked s call with ⟨after, finished, asked, given, same⟩ | ⟨none, _⟩
      · rw [given] at here
        obtain rfl := List.mem_singleton.mp here
        exact ⟨reached, after, finished, asked, same⟩
      · rw [none] at here
        simp at here
    · exact ih (.call reached call) t there

theorem bodyConsumes {source : String} {calls : List Call} (reached : Reached source s) {t : Turn}
    (member : t ∈ s.asks calls) (body : t.isBody = true) : Consumes source t := by
  obtain ⟨earlier, after, finished, asked, same⟩ := askedTurn reached t member
  obtain ⟨before, ⟨result, last⟩⟩ := t
  have stop : Turn.stop ⟨before, ⟨result, last⟩⟩ = after.pos := by
    rw [Turn.stop, same]
    rfl
  cases result with
  | error fault => contradiction
  | ok token =>
    have more : token.isEof = false := by simpa [Turn.isBody, isLast] using body
    obtain ⟨blanks, lexeme, split, gap, first, filled, span, place⟩ := yieldsLexeme asked more
    have start : Turn.start ⟨before, ⟨.ok token, last⟩⟩ = before.pos + utf8Size blanks := by
      rw [Turn.start, skipBlanksPast split gap (by rwa [headOfAppend filled])]
      rfl
    obtain ⟨c, more', rfl⟩ := List.exists_cons_of_ne_nil filled
    obtain ⟨passed, whole, bytes⟩ := reachedPlaced earlier
    rw [reachedSource earlier, split] at whole
    refine ⟨⟨token, rfl, more, by rw [start, stop, span, place]⟩,
      passed ++ blanks, c, more' ++ after.rest, ?_, ?_, ?_, first c rfl⟩
    · rw [whole]
      simp
    · rw [start, utf8SizeAppend, bytes]
    · rw [stop, place, utf8SizeAppend, bytes, utf8SizeCons]
      omega

theorem leadUnblanks {u : Session} {tokens : List Token} (lead : Lead s tokens u) :
    tokens.length + unblanks u.rest ≤ unblanks s.rest := by
  induction lead with
  | nil => exact Nat.le_of_eq (Nat.zero_add _)
  | cons asked more _ ih =>
    have fewer := yieldsUnblanks asked
    rw [show isLast (.ok _) = false from more, if_neg Bool.false_ne_true] at fewer
    rw [List.length_cons]
    omega

theorem pullYields {result : Except Fault Token} (unfinished : s.finished = false)
    (asked : s.Yields result t) :
    s.answer .pull = (.pulled (some result), t.marked (isLast result)) := by
  rw [pullAsks unfinished, yieldsNext asked]

theorem pullsOver (finished : s.finished = true) (n : Nat) :
    s.replies (List.replicate n .pull) = List.replicate n (.pulled none) := by
  induction n with
  | zero => rfl
  | succ n ih => rw [List.replicate_succ, repliesCons, pullClosed finished, ih, List.replicate_succ]

theorem leadPulls {u : Session} {tokens : List Token} (lead : Lead s tokens u)
    (unfinished : s.finished = false) (n : Nat) :
    u.finished = false ∧ s.replies (List.replicate (tokens.length + n) .pull) =
      tokens.map (fun t => .pulled (some (.ok t))) ++ u.replies (List.replicate n .pull) := by
  induction lead with
  | nil => exact ⟨unfinished, by simp⟩
  | @cons s t after tokens u asked more later ih =>
    have still : after.finished = false := (yieldsFinished asked).trans unfinished
    have same : after.marked (isLast (.ok t)) = after := by
      rw [isLast, more, ← still]
      rfl
    obtain ⟨last, replies⟩ := ih still
    refine ⟨last, ?_⟩
    rw [List.length_cons, Nat.add_right_comm, List.replicate_succ, repliesCons,
      pullYields unfinished asked, same, replies]
    rfl

/-- Pulling gives tokens and one last result, the end of input or a fault, and then nothing; it gives
no more tokens than the source has characters that are no blank, apart from the end of input. And so
it is for calls of any kind in any order: each token takes up such a character, and no two the same. -/
theorem tokensConsume (source : String) (mode : Mode) :
    (∃ (tokens : List Token) (last : Except Fault Token), (∀ t ∈ tokens, t.isEof = false) ∧
      isLast last = true ∧ tokens.length ≤ unblanks source.toList ∧
      ∀ n, (start source mode).replies (List.replicate (tokens.length + (n + 1)) .pull) =
        tokens.map (fun t => .pulled (some (.ok t))) ++
          .pulled (some last) :: List.replicate n (.pulled none)) ∧
      ∀ calls, let body := ((start source mode).asks calls).filter Turn.isBody
        body.length ≤ unblanks source.toList ∧
          (body.Pairwise fun t later => t.stop ≤ later.start) ∧ ∀ t ∈ body, Consumes source t := by
  constructor
  · obtain ⟨tokens, u, last, after, lead, asked, final, _⟩ :=
      streamLead (stepsStream (show (start source mode).finished = false from rfl))
    refine ⟨tokens, last, leadBody lead, final, ?_, ?_⟩
    · exact Nat.le_trans (Nat.le_add_right _ _) (leadUnblanks lead)
    · intro n
      obtain ⟨unfinished, replies⟩ := leadPulls lead rfl (n + 1)
      rw [replies, List.replicate_succ, repliesCons, pullYields unfinished asked, final]
      exact congrArg (_ ++ _ :: ·) (pullsOver rfl n)
  · intro calls body
    refine ⟨asksUnblanks (start source mode) calls, (asksApart _ calls).filter _, ?_⟩
    intro t member
    obtain ⟨asked, solid⟩ := List.mem_filter.mp member
    exact bodyConsumes (.start mode) asked solid

theorem threeTokensOfFive :
    let calls : List Call := [.next, .pull, .setMode (some .extended), .next, .pull, .next]
    let body := ((start "1 \\aé#" .basic).asks calls).filter Turn.isBody
    body.length = 3 ∧ unblanks "1 \\aé#".toList = 5 ∧
      (body.Pairwise fun t later => t.stop ≤ later.start) ∧ ∀ t ∈ body, Consumes "1 \\aé#" t := by
  intro calls body
  have three : body.length = 3 := by decide +kernel
  obtain ⟨_, apart, consumes⟩ := (tokensConsume "1 \\aé#" .basic).2 calls
  exact ⟨three, by decide, apart, consumes⟩

end Session
end ModalLexer
