import ModalLexer.Fault
import ModalLexer.Proofs.Legible

/-! The wording of faults: a message, a label and advice can be told from each other, and the first
and the last from text that ends with a digit. -/
namespace ModalLexer

theorem endsBehind {last : String} {c : Char} (ends : last.toList.getLast? = some c)
    (front : String) : (front ++ last).toList.getLast? = some c := by
  rw [String.toList_append, List.getLast?_append, ends]
  rfl

theorem messageEnds (c : Cause) : ∃ d, c.message.toList.getLast? = some d ∧ d.isDigit = false := by
  cases c with
  | exhausted => exact ⟨'d', by decide +kernel, by decide⟩
  | danglingEscape => exact ⟨'t', by decide +kernel, by decide⟩
  | missingMode => exact ⟨'e', by decide +kernel, by decide⟩
  | escapedLetter => exact ⟨'d', endsBehind (by decide +kernel) _, by decide⟩
  | numberOverflow => exact ⟨'r', endsBehind (by decide +kernel) _, by decide⟩

theorem hintEnds {c : Cause} {hint : String} (given : c.hint = some hint) :
    ∃ d, hint.toList.getLast? = some d ∧ d.isDigit = false := by
  cases c with
  | exhausted => contradiction
  | danglingEscape =>
    cases given
    exact ⟨'e', by decide +kernel, by decide⟩
  | escapedLetter | missingMode =>
    cases given
    exact ⟨'\x60', by decide +kernel, by decide⟩
  | numberOverflow =>
    cases given
    exact ⟨'d', by decide +kernel, by decide⟩

theorem labelLetter (c : Context) : 'e' ∈ c.label.toList := by
  cases c with
  | topLevel | modeOverride => decide +kernel
  | word | number =>
    unfold Context.label
    rw [String.toList_append]
    exact List.mem_append_left _ (by decide +kernel)

theorem messageLetter (c : Cause) : 'e' ∈ c.message.toList := by
  cases c with
  | exhausted | danglingEscape | missingMode => decide +kernel
  | escapedLetter | numberOverflow =>
    unfold Cause.message
    rw [String.toList_append, String.toList_append, List.append_assoc]
    exact List.mem_append_left _ (by decide +kernel)

def Plain (text : List Char) : Prop := ':' ∉ text ∧ '\x60' ∉ text ∧ 'q' ∉ text

instance (text : List Char) : Decidable (Plain text) := by unfold Plain; infer_instance

theorem plainAppend {left right : List Char} : Plain (left ++ right) ↔ Plain left ∧ Plain right := by
  simp only [Plain, List.mem_append, not_or]
  grind

theorem labelPlain (c : Context) : Plain c.label.toList := by
  have digits (n : Nat) : Plain (toString n).toList :=
    ⟨fun inside => absurd (Text.digitWritten inside) (by decide),
      fun inside => absurd (Text.digitWritten inside) (by decide),
      fun inside => absurd (Text.digitWritten inside) (by decide)⟩
  cases c with
  | topLevel | modeOverride => decide +kernel
  | word start | number start =>
    unfold Context.label
    rw [String.toList_append, plainAppend]
    exact ⟨by decide +kernel, digits start⟩

theorem messageMarked (c : Cause) : ¬ Plain c.message.toList := by
  cases c with
  | exhausted | danglingEscape | missingMode => decide +kernel
  | escapedLetter | numberOverflow =>
    unfold Cause.message
    rw [String.toList_append, String.toList_append, plainAppend, plainAppend]
    exact fun plain => absurd plain.1.1 (by decide +kernel)

end ModalLexer
