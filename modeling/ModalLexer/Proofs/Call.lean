import ModalLexer.Proofs.Request

/-! Calls on a session, in any order, also after a fault and after the end of input. A session that
calls have reached still stands at a place of its source. -/
namespace ModalLexer

inductive Call where
  | next
  | pull
  | setMode (mode : Option Mode)
  deriving DecidableEq, Repr

inductive Reply where
  | token (result : Except Fault Token)
  | pulled (result : Option (Except Fault Token))
  | modeSet (result : Except Fault Unit)

namespace Session

def answer (s : Session) : Call → Reply × Session
  | .next => (.token s.next.1, s.next.2)
  | .pull => (.pulled s.pull.1, s.pull.2)
  | .setMode mode => (.modeSet (s.setMode mode).1, (s.setMode mode).2)

structure Moment where
  reply : Reply
  mode : Mode
  pos : Nat

def trail (s : Session) : List Call → List Moment
  | [] => []
  | call :: later =>
    let (reply, after) := s.answer call
    ⟨reply, after.mode, after.pos⟩ :: after.trail later

inductive Reached (source : String) : Session → Prop where
  | start (mode) : Reached source (start source mode)
  | call {s} (earlier : Reached source s) (call : Call) : Reached source (s.answer call).2

theorem answerKeeps {P : Session → Prop}
    (requests : ∀ s t result, P s → s.Yields result t → P t)
    (modes : ∀ s mode, P s → P { s with mode := mode })
    (marks : ∀ s finished, P s → P { s with finished := finished })
    {s : Session} (holds : P s) (call : Call) : P (s.answer call).2 := by
  have asked := requests s _ _ holds s.nextYields
  cases call with
  | next => exact asked
  | pull =>
    simp only [answer, pull]
    split
    · exact holds
    · exact marks _ _ asked
  | setMode mode =>
    cases mode with
    | none => exact holds
    | some mode => exact modes s mode holds

theorem reachedKeeps {P : Session → Prop} {source : String}
    (starts : ∀ mode, P (start source mode))
    (requests : ∀ s t result, P s → s.Yields result t → P t)
    (modes : ∀ s mode, P s → P { s with mode := mode })
    (marks : ∀ s finished, P s → P { s with finished := finished })
    {s : Session} (reached : Reached source s) : P s := by
  induction reached with
  | start mode => exact starts mode
  | call earlier call ih => exact answerKeeps requests modes marks ih call

theorem reachedSource {source : String} {s : Session} (reached : Reached source s) :
    s.source = source :=
  reachedKeeps (fun _ => rfl) (fun _ _ _ same asked => (yieldsTaken asked).1.trans same)
    (fun _ _ same => same) (fun _ _ same => same) reached

theorem reachedPlaced {source : String} {s : Session} (reached : Reached source s) : s.Placed :=
  reachedKeeps (startPlaced source) (fun _ _ _ placed asked => yieldsPlaced asked placed)
    (fun _ _ placed => placed) (fun _ _ placed => placed) reached

theorem reachedDrained {source : String} {s : Session} (reached : Reached source s) :
    s.ended = true → s.rest = [] := by
  refine reachedKeeps (P := fun s => s.ended = true → s.rest = []) ?_ ?_ ?_ ?_ reached
  · intro mode ended
    contradiction
  · intro s t result drained asked ended
    cases asked with
    | exhausted => exact drained ended
    | eof => rfl
    | token going gap first split rule => exact absurd (isEofExact.mp ended) (ruleNoEof rule)
    | fault going =>
      rw [rejectKeeps] at ended
      have still : s.ended = true := ended
      rw [going] at still
      contradiction
  · intro s mode drained
    exact drained
  · intro s finished drained
    exact drained

theorem reachedBounded {source : String} (small : source.utf8ByteSize ≤ largestOffset) {s : Session}
    (reached : Reached source s) : s.Bounded :=
  reachedKeeps (startBounded small) (fun _ _ _ bounded asked => yieldsBounded asked bounded)
    (fun _ _ bounded => bounded) (fun _ _ bounded => bounded) reached

end Session
end ModalLexer
