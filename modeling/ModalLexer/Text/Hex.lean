/-! Hexadecimal numerals, with letters of either case. -/
namespace ModalLexer.Text

def hexDigit? (c : Char) : Option Nat :=
  if c.isDigit then some (c.toNat - '0'.toNat)
  else if 'a' ≤ c ∧ c ≤ 'f' then some (c.toNat - 'a'.toNat + 10)
  else if 'A' ≤ c ∧ c ≤ 'F' then some (c.toNat - 'A'.toNat + 10)
  else none

def hexValue? (digits : List Char) : Option Nat :=
  digits.foldlM (fun value c => (hexDigit? c).map (16 * value + ·)) 0

theorem hexDigitChar {d : Nat} (small : d < 16) : hexDigit? (Nat.digitChar d) = some d :=
  (show ∀ d < 16, hexDigit? (Nat.digitChar d) = some d by decide) d small

theorem hexDigits (n : Nat) : ∀ c ∈ Nat.toDigits 16 n, ∃ d < 16, c = Nat.digitChar d := by
  induction n using Nat.strongRecOn with
  | ind n ih =>
    rw [Nat.toDigits_eq_if (by decide)]
    split
    · next small => simpa using ⟨n, small, rfl⟩
    · next large =>
      intro c member
      rcases List.mem_append.mp member with above | last
      · exact ih (n / 16) (by omega) c above
      · exact ⟨n % 16, by omega, List.mem_singleton.mp last⟩

theorem hexValueToDigits (n : Nat) : hexValue? (Nat.toDigits 16 n) = some n := by
  induction n using Nat.strongRecOn with
  | ind n ih =>
    rw [Nat.toDigits_eq_if (by decide)]
    split
    · next small => simp [hexValue?, hexDigitChar small]
    · next large =>
      have above : hexValue? (Nat.toDigits 16 (n / 16)) = some (n / 16) := ih _ (by omega)
      rw [hexValue?, List.foldlM_append, ← hexValue?, above]
      simp [hexDigitChar (show n % 16 < 16 by omega)]
      omega

end ModalLexer.Text
