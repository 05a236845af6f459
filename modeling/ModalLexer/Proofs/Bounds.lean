import Mathlib.Control.Monad.Basic
import ModalLexer.Proofs.Call
import ModalLexer.Proofs.Cursor

/-! Bounds of places and spans. Sessions over one source may be called in any order and copied on the
way; none of them ever stands, cuts or points inside a character or past the end of the source. -/
namespace ModalLexer
open Text
open Unicode (isBlank)

structure Inside (source : String) (span : Span) : Prop where
  ordered : span.start ≤ span.stop
  within : span.stop ≤ source.utf8ByteSize
  start : Boundary source span.start
  stop : Boundary source span.stop

def Reply.span? : Reply → Option Span
  | .token result => some (spanOf result)
  | .pulled result => result.map spanOf
  | .modeSet (.ok ()) => none
  | .modeSet (.error fault) => some fault.span

def Cursor.answer? (c : Cursor) : Call → Option (Reply × Cursor)
  | .next => c.next?.map fun (result, after) => (.token result, after)
  | .pull => c.pull?.map fun (result, after) => (.pulled result, after)
  | .setMode mode => some (.modeSet (c.setMode mode).1, (c.setMode mode).2)

namespace Session

inductive Pooled (source : String) : List Session → Prop where
  | start (mode) : Pooled source [start source mode]
  | call {before s after} (earlier : Pooled source (before ++ s :: after)) (call : Call) :
      Pooled source (before ++ (s.answer call).2 :: after)
  | copy {before s after} (earlier : Pooled source (before ++ s :: after)) :
      Pooled source (before ++ s :: after ++ [s])

theorem pooledReached {source : String} {pool : List Session} (pooled : Pooled source pool) :
    ∀ s ∈ pool, Reached source s := by
  induction pooled with
  | start mode =>
    intro s member
    rw [List.mem_singleton.mp member]
    exact .start mode
  | @call before s after earlier call ih =>
    intro other member
    rcases List.mem_append.mp member with old | later
    · exact ih other (List.mem_append_left _ old)
    · rcases List.mem_cons.mp later with rfl | old
      · exact .call (ih s (by simp)) call
      · exact ih other (List.mem_append_right _ (List.mem_cons_of_mem _ old))
  | @copy before s after earlier ih =>
    intro other member
    rcases List.mem_append.mp member with old | new
    · exact ih other old
    · rw [List.mem_singleton.mp new]
      exact ih s (by simp)

variable {s : Session}

theorem answerCursor (placed : s.Placed) (call : Call) :
    s.cursor.answer? call = some ((s.answer call).1, (s.answer call).2.cursor) := by
  have asked := nextCursor placed
  cases call with
  | next => rw [Cursor.answer?, asked]; rfl
  | pull =>
    rw [Cursor.answer?, Cursor.pull?, answer, pull]
    by_cases finished : s.finished = true
    · rw [if_pos finished, if_pos (show s.cursor.finished = true from finished)]
      rfl
    · rw [if_neg finished, if_neg (show ¬ s.cursor.finished = true from finished), asked]
      rfl
  | setMode mode => cases mode <;> rfl

theorem answerForward (s : Session) (call : Call) : s.pos ≤ (s.answer call).2.pos := by
  refine answerKeeps (P := fun t => s.pos ≤ t.pos) ?_ (fun _ _ here => here) (fun _ _ here => here)
    (Nat.le_refl _) call
  intro t after result here asked
  obtain ⟨_, taken, _, place⟩ := yieldsTaken asked
  omega

theorem reachedBehind {source : String} (small : source.utf8ByteSize ≤ largestOffset)
    (reached : Reached source s) : ∀ t ∈ s.current, t.span.stop ≤ s.pos := by
  suffices both : s.Bounded ∧ ∀ t ∈ s.current, t.span.stop ≤ s.pos from both.2
  refine reachedKeeps (P := fun s => s.Bounded ∧ ∀ t ∈ s.current, t.span.stop ≤ s.pos)
    (fun mode => ⟨startBounded small mode, nofun⟩) ?_ (fun _ _ holds => holds)
    (fun _ _ holds => holds) reached
  rintro s after result ⟨bounded, behind⟩ asked
  refine ⟨yieldsBounded asked bounded, ?_⟩
  cases result with
  | ok t =>
    intro last same
    rw [tokenCurrent asked] at same
    cases same
    exact Nat.le_of_eq (congrArg Span.stop (tokenSpan asked bounded))
  | error fault =>
    intro last same
    obtain ⟨_, taken, _, place⟩ := yieldsTaken asked
    rw [faultKeeps asked] at same
    have old := behind last same
    omega

theorem spanInside (before slice rest : List Char) (placed : s.Placed) (bounded : s.Bounded)
    (split : s.rest = before ++ (slice ++ rest)) :
    Inside s.source (.between (s.pos + utf8Size before)
      (s.pos + utf8Size before + utf8Size slice)) := by
  have size := placedSize placed
  obtain ⟨passed, whole, place⟩ := placed
  rw [split] at whole
  simp only [Bounded] at bounded
  simp only [split, utf8SizeAppend] at bounded size
  rw [betweenExact (by omega) (by omega)]
  refine ⟨Nat.le_add_right _ _, by dsimp only; omega, ?_, ?_⟩
  · rw [← place, ← utf8SizeAppend]
    exact boundaryPlace (by rw [whole, List.append_assoc])
  · rw [← place, ← utf8SizeAppend, ← utf8SizeAppend]
    exact boundaryPlace (by rw [whole, List.append_assoc, List.append_assoc])

theorem pointInside (placed : s.Placed) (bounded : s.Bounded) :
    Inside s.source (.point (clampOffset s.pos)) :=
  spanInside [] [] s.rest placed bounded rfl

theorem rejectInside {text : List Char} {snag : Snag} (placed : s.Placed) (bounded : s.Bounded)
    (obstacle : Obstacle text snag) (front : s.rest = text) :
    Inside s.source (s.reject snag).1.span := by
  obtain ⟨before, slice, after, split, _, span⟩ := rejectSlice s obstacle
  rw [span]
  exact spanInside before slice after placed bounded (front.trans split)

theorem yieldsInside {after : Session} {result : Except Fault Token} (placed : s.Placed)
    (bounded : s.Bounded) (asked : s.Yields result after) :
    Inside s.source (spanOf result) := by
  cases asked with
  | exhausted ended => exact pointInside placed bounded
  | eof going gap =>
    exact spanInside s.rest [] [] placed bounded (by simp)
  | token going gap first split rule => exact spanInside _ _ _ placed bounded split
  | fault going gap first split basic obstacle =>
    exact rejectInside (pastPlaced placed split) (pastBounded split bounded) obstacle rfl

theorem answerInside (placed : s.Placed) (bounded : s.Bounded) (call : Call) :
    ∀ span ∈ (s.answer call).1.span?, Inside s.source span := by
  have asked := yieldsInside placed bounded s.nextYields
  intro span given
  cases call with
  | next =>
    cases given
    exact asked
  | pull =>
    by_cases finished : s.finished = true
    · simp [answer, pull, finished, Reply.span?] at given
    · simp only [answer, pull, finished, Reply.span?] at given
      cases given
      exact asked
  | setMode mode =>
    cases mode with
    | some mode => simp [answer, setMode, Reply.span?] at given
    | none =>
      cases given
      exact pointInside placed bounded

structure Safe (source : String) (s : Session) : Prop where
  within : s.pos ≤ source.utf8ByteSize
  boundary : Boundary source s.pos
  behind : ∀ t ∈ s.current, t.span.stop ≤ s.pos
  answers : ∀ call, s.cursor.answer? call = some ((s.answer call).1, (s.answer call).2.cursor)
  forward : ∀ call, s.pos ≤ (s.answer call).2.pos
  inside : ∀ call, ∀ span ∈ (s.answer call).1.span?, Inside source span

theorem reachedSafe {source : String} (small : source.utf8ByteSize ≤ largestOffset)
    (reached : Reached source s) : Safe source s := by
  have origin := reachedSource reached
  have placed := reachedPlaced reached
  have size := placedSize placed
  have within := answerInside placed (reachedBounded small reached)
  rw [origin] at size within
  refine ⟨by omega, ?_, reachedBehind small reached, answerCursor placed, answerForward s, within⟩
  obtain ⟨passed, whole, place⟩ := placed
  rw [← place]
  exact boundaryPlace (origin ▸ whole)

/-- Whatever calls and copies are made, every session stays between characters of its source and its
cursor cuts no slice out of bounds. The scans of bytes stop where scans of characters do. -/
theorem poolSafe {source : String} (small : source.utf8ByteSize ≤ largestOffset)
    {pool : List Session} (pooled : Pooled source pool) :
    (∀ s ∈ pool, Safe source s) ∧
      ∀ passed rest, source.toList = passed ++ rest →
        ((bytes source).drop (utf8Size passed)).findIdx endsRun =
            utf8Size (rest.takeWhile inRun) ∧
          (((bytes source).drop (utf8Size passed)).takeWhile isNumeralByte).length =
            utf8Size (rest.takeWhile isNumeral) := by
  refine ⟨fun s member => reachedSafe small (pooledReached pooled s member), ?_⟩
  intro passed rest whole
  rw [bytesAhead whole]
  exact ⟨runScan rest, numeralScan rest⟩

theorem copyAfterFault :
    let s := ((start "é\\é 1.5ß" .basic).answer .next).2
    let t := (s.answer .pull).2
    "é\\é 1.5ß".utf8ByteSize ≤ largestOffset ∧ Pooled "é\\é 1.5ß" [s, t] ∧
      s.pos = 5 ∧ t.pos = 9 ∧ Boundary "é\\é 1.5ß" 5 ∧ Boundary "é\\é 1.5ß" 9 ∧
      t.cursor.answer? .next = some (.token (.ok ⟨.word "ß", ⟨9, 11⟩⟩), t.next.2.cursor) ∧
      Inside "é\\é 1.5ß" ⟨9, 11⟩ := by
  intro s t
  have small : "é\\é 1.5ß".utf8ByteSize ≤ largestOffset := by decide
  have first : Pooled "é\\é 1.5ß" [s] :=
    @Pooled.call _ [] _ [] (.start .basic) .next
  have pooled : Pooled "é\\é 1.5ß" [s, t] :=
    @Pooled.call _ [s] s [] (@Pooled.copy _ [] s [] first) .pull
  have here : s.pos = 5 := by decide +kernel
  have there : t.pos = 9 := by decide +kernel
  have given : t.next.1 = .ok ⟨.word "ß", ⟨9, 11⟩⟩ := by decide +kernel
  clear_value t s
  have safe := (poolSafe small pooled).1
  have original := safe s (by simp)
  have copy := safe t (by simp)
  have answer := copy.answers .next
  have inside := copy.inside .next
  simp only [Session.answer, given] at answer inside
  exact ⟨small, pooled, here, there, here ▸ original.boundary, there ▸ copy.boundary, answer,
    inside _ rfl⟩

end Session
end ModalLexer
