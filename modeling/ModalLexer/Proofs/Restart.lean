import ModalLexer.Proofs.Call

/-! Restarts: what is left of a session behaves as a session of its own on the text that is left.
The offsets alone tell them apart, by the bytes that went before. -/
namespace ModalLexer

def shiftResult (bytes : Nat) : Except Fault Token → Except Fault Token
  | .ok t => .ok (t.shift bytes)
  | .error fault => .error (fault.shift bytes)

def Reply.shift (bytes : Nat) : Reply → Reply
  | .token result => .token (shiftResult bytes result)
  | .pulled result => .pulled (result.map (shiftResult bytes))
  | .modeSet (.ok ()) => .modeSet (.ok ())
  | .modeSet (.error fault) => .modeSet (.error (fault.shift bytes))

namespace Session

def Moment.shift (bytes : Nat) (m : Moment) : Moment :=
  ⟨m.reply.shift bytes, m.mode, m.pos + bytes⟩

structure Shifted (bytes : Nat) (s t : Session) : Prop where
  place : s.pos = t.pos + bytes
  front : s.rest = t.rest
  modes : s.mode = t.mode
  ends : s.ended = t.ended
  bounded : s.Bounded

theorem clampShift {bytes : Nat} {s t : Session} (shifted : Shifted bytes s t) :
    clampOffset s.pos = clampOffset t.pos + bytes := by
  have place := shifted.place
  have bounded := shifted.bounded
  simp only [Bounded] at bounded
  rw [clampOffsetExact (by omega), clampOffsetExact (by omega), place]

theorem spanShift {bytes : Nat} {s t : Session} (shifted : Shifted bytes s t) {start stop : Nat}
    (ordered : start ≤ stop) (inside : stop ≤ utf8Size s.rest) :
    Span.between (s.pos + start) (s.pos + stop) =
      (Span.between (t.pos + start) (t.pos + stop)).shift bytes := by
  have place := shifted.place
  have bounded := shifted.bounded
  simp only [Bounded] at bounded
  rw [betweenExact (by omega) (by omega), betweenExact (by omega) (by omega)]
  simp only [Span.shift, Span.mk.injEq]
  omega

theorem pastShift {bytes : Nat} {s t : Session} (shifted : Shifted bytes s t)
    {blanks text : List Char} (split : s.rest = blanks ++ text) :
    Shifted bytes (s.past blanks text) (t.past blanks text) := by
  have place := shifted.place
  have bounded := shifted.bounded
  refine ⟨?_, rfl, shifted.modes, shifted.ends, ?_⟩
  · simp only [past]
    omega
  · simp only [Bounded, split, utf8SizeAppend, past] at bounded ⊢
    omega

theorem acceptShift {bytes : Nat} {s t : Session} (shifted : Shifted bytes s t) {p : Piece}
    (split : s.rest = p.lexeme ++ p.rest) :
    (s.accept p).1 = (t.accept p).1.shift bytes ∧ Shifted bytes (s.accept p).2 (t.accept p).2 := by
  have size := congrArg utf8Size split
  rw [utf8SizeAppend] at size
  have span := spanShift shifted (Nat.zero_le (utf8Size p.lexeme)) (by omega)
  have place := shifted.place
  have bounded := shifted.bounded
  refine ⟨congrArg (Token.mk p.kind) span, ?_, rfl, rfl, rfl, ?_⟩
  · simp only [accept]
    omega
  · simp only [Bounded, accept] at bounded ⊢
    omega

theorem rejectShift {bytes : Nat} {s t : Session} (shifted : Shifted bytes s t) {text : List Char}
    (front : s.rest = text) {snag : Snag} (obstacle : Obstacle text snag) :
    (s.reject snag).1 = (t.reject snag).1.shift bytes ∧
      Shifted bytes (s.reject snag).2 (t.reject snag).2 := by
  have size := congrArg utf8Size front
  have place := shifted.place
  have bounded := shifted.bounded
  have clamp := clampShift shifted
  simp only [Bounded] at bounded
  cases obstacle with
  | @dangling glyphs proper =>
    simp only [utf8SizeAppend, utf8SizeCons, utf8SizeNil] at size
    have span := spanShift shifted (Nat.le_add_right (utf8Size (Glyph.lexeme glyphs))
      escapeMark.utf8Size) (by omega)
    by_cases bare : Glyph.lexeme glyphs = []
    · simp only [reject, bare, if_true]
      rw [bare] at span
      exact ⟨congrArg (Fault.danglingEscape · .topLevel) span, shifted⟩
    · simp only [reject, bare, if_false, Nat.add_assoc]
      refine ⟨?_, ?_, rfl, shifted.modes, shifted.ends, ?_⟩
      · rw [span, clamp]
        rfl
      · dsimp only
        omega
      · simp only [Bounded, utf8SizeNil]
        omega
  | @letter glyphs letter rest proper escaped =>
    simp only [utf8SizeAppend, utf8SizeCons] at size
    have span := spanShift shifted (Nat.le_add_right (utf8Size (Glyph.lexeme glyphs))
      (escapeMark.utf8Size + letter.utf8Size)) (by omega)
    simp only [reject, Nat.add_assoc]
    refine ⟨?_, ?_, rfl, shifted.modes, shifted.ends, ?_⟩
    · rw [span, clamp]
      rfl
    · dsimp only
      omega
    · simp only [Bounded]
      omega
  | @overflow first digits rest start inside stop large =>
    rw [utf8SizeAppend] at size
    have span := spanShift shifted (Nat.zero_le (utf8Size (first :: digits))) (by omega)
    simp only [reject]
    refine ⟨congrArg (Fault.numberOverflow · (String.ofList (first :: digits))) span, ?_, rfl,
      shifted.modes, shifted.ends, ?_⟩
    · dsimp only
      omega
    · simp only [Bounded]
      omega

theorem nextShift {bytes : Nat} {s t : Session} (shifted : Shifted bytes s t) :
    s.next.1 = shiftResult bytes t.next.1 ∧ Shifted bytes s.next.2 t.next.2 := by
  obtain ⟨result, after, asked⟩ : ∃ result after, t.next = (result, after) := ⟨_, _, rfl⟩
  have yields := nextExact.mp asked
  rw [asked]
  cases yields with
  | exhausted ended =>
    rw [yieldsNext (.exhausted (shifted.ends.trans ended))]
    refine ⟨?_, shifted⟩
    rw [clampShift shifted]
    rfl
  | eof going gap =>
    have split : s.rest = s.rest ++ [] := (List.append_nil _).symm
    obtain ⟨token, state⟩ := acceptShift (pastShift shifted split) (p := ⟨.eof, [], [], s.mode⟩) rfl
    rw [yieldsNext (.eof (shifted.ends.trans going) (shifted.front ▸ gap)), ← shifted.front,
      ← shifted.modes]
    exact ⟨congrArg Except.ok token, state⟩
  | token going gap first split rule =>
    have split' := shifted.front.trans split
    obtain ⟨token, state⟩ := acceptShift (pastShift shifted split') (p := ⟨_, _, _, _⟩) rfl
    rw [yieldsNext (.token (shifted.ends.trans going) gap first split' (shifted.modes ▸ rule))]
    exact ⟨congrArg Except.ok token, state⟩
  | fault going gap first split basic obstacle =>
    have split' := shifted.front.trans split
    obtain ⟨fault, state⟩ := rejectShift (pastShift shifted split') rfl obstacle
    rw [yieldsNext (.fault (shifted.ends.trans going) gap first split' (shifted.modes.trans basic)
      obstacle)]
    exact ⟨congrArg Except.error fault, state⟩

theorem setModeShift {bytes : Nat} {s t : Session} (shifted : Shifted bytes s t)
    (mode : Option Mode) :
    (s.answer (.setMode mode)).1 = (t.answer (.setMode mode)).1.shift bytes ∧
      Shifted bytes (s.answer (.setMode mode)).2 (t.answer (.setMode mode)).2 := by
  cases mode with
  | none =>
    simp only [answer, setMode, clampShift shifted]
    exact ⟨rfl, shifted⟩
  | some mode =>
    exact ⟨rfl, shifted.place, shifted.front, rfl, shifted.ends, shifted.bounded⟩

theorem answerShift {bytes : Nat} {s t : Session} (shifted : Shifted bytes s t) {call : Call}
    (kept : call ≠ .pull) :
    (s.answer call).1 = (t.answer call).1.shift bytes ∧
      Shifted bytes (s.answer call).2 (t.answer call).2 := by
  cases call with
  | next =>
    obtain ⟨result, state⟩ := nextShift shifted
    exact ⟨congrArg Reply.token result, state⟩
  | pull => contradiction
  | setMode mode => exact setModeShift shifted mode

theorem trailShift {bytes : Nat} {s t : Session} (shifted : Shifted bytes s t) {calls : List Call}
    (kept : Call.pull ∉ calls) : s.trail calls = (t.trail calls).map (Moment.shift bytes) := by
  induction calls generalizing s t with
  | nil => rfl
  | cons call later ih =>
    have first : call ≠ .pull := fun same => kept (same ▸ List.mem_cons_self)
    have rest : Call.pull ∉ later := fun member => kept (List.mem_cons_of_mem _ member)
    obtain ⟨reply, state⟩ := answerShift shifted first
    simp only [trail, List.map_cons, ih state rest, Moment.shift, reply, state.modes, state.place]

/-- From wherever calls have led, what comes next is what a fresh session on the text that is left
would give, but for the bytes passed. -/
theorem restartsAfresh {source : String} (small : source.utf8ByteSize ≤ largestOffset) {s : Session}
    (reached : Reached source s) (going : s.ended = false) :
    ∃ passed tail : String, source = passed ++ tail ∧ passed.utf8ByteSize = s.pos ∧
      ∀ calls, Call.pull ∉ calls →
        s.trail calls = ((start tail s.mode).trail calls).map (Moment.shift s.pos) := by
  obtain ⟨passed, whole, bytes⟩ := reachedPlaced reached
  rw [reachedSource reached] at whole
  refine ⟨String.ofList passed, String.ofList s.rest, ?_, ?_, ?_⟩
  · rw [← String.ofList_append, ← whole, String.ofList_toList]
  · rw [utf8SizeOfList, bytes]
  · intro calls kept
    apply trailShift _ kept
    exact ⟨(Nat.zero_add _).symm, (String.toList_ofList).symm, rfl, going,
      reachedBounded small reached⟩

theorem restartsAfterFault :
    let s := ((((start "é\\a1#x y" .basic).answer .pull).2.answer (.setMode (some .extended))).2.answer
      .next).2
    "é\\a1#x y".utf8ByteSize ≤ largestOffset ∧ Reached "é\\a1#x y" s ∧ s.ended = false ∧
      ∃ passed tail : String, "é\\a1#x y" = passed ++ tail ∧ passed.utf8ByteSize = s.pos ∧
        ∀ calls, Call.pull ∉ calls →
          s.trail calls = ((start tail s.mode).trail calls).map (Moment.shift s.pos) := by
  intro s
  have reached : Reached "é\\a1#x y" s :=
    .call (.call (.call (.start .basic) .pull) (.setMode (some .extended))) .next
  have going : s.ended = false := by decide +kernel
  exact ⟨by decide, reached, going, restartsAfresh (by decide) reached going⟩

end Session
end ModalLexer
