/-! Sets of characters as ascending ranges of code points. A look-up stops at the first range that
starts beyond the character, so a character low in a table is found at once. -/
namespace ModalLexer.Unicode

abbrev Ranges := List (Nat × Nat)

namespace Ranges

def contains : Ranges → Nat → Bool
  | [], _ => false
  | (first, last) :: rest, code =>
      if code < first then false else decide (code ≤ last) || contains rest code

def ascendFrom (floor : Nat) : Ranges → Bool
  | [] => true
  | (first, last) :: rest =>
      decide (floor ≤ first) && decide (first ≤ last) && ascendFrom (last + 1) rest

theorem ascendingAbove {floor : Nat} {table : Ranges} (ascending : ascendFrom floor table = true) :
    ∀ r ∈ table, floor ≤ r.1 := by
  induction table generalizing floor with
  | nil => simp
  | cons r rest ih =>
    simp only [ascendFrom, Bool.and_eq_true, decide_eq_true_eq] at ascending
    obtain ⟨⟨above, ordered⟩, tail⟩ := ascending
    intro x member
    rcases List.mem_cons.mp member with same | inside
    · subst x; exact above
    · exact Nat.le_trans (by omega) (ih tail x inside)

theorem containsExact {floor : Nat} {table : Ranges} (ascending : ascendFrom floor table = true)
    (code : Nat) : table.contains code = true ↔ ∃ r ∈ table, r.1 ≤ code ∧ code ≤ r.2 := by
  induction table generalizing floor with
  | nil => simp [contains]
  | cons r rest ih =>
    simp only [ascendFrom, Bool.and_eq_true, decide_eq_true_eq] at ascending
    obtain ⟨_, tail⟩ := ascending
    have above := ascendingAbove tail
    simp only [contains, List.mem_cons, exists_eq_or_imp]
    split
    · next low =>
      simp only [Bool.false_eq_true, false_iff]
      rintro (⟨lower, _⟩ | ⟨x, inside, lower, _⟩)
      · omega
      · have := above x inside
        omega
    · next reached =>
      rw [Bool.or_eq_true, decide_eq_true_eq, ih tail]
      exact or_congr ⟨fun within => ⟨Nat.le_of_not_lt reached, within⟩, And.right⟩ Iff.rfl

end Ranges
end ModalLexer.Unicode
