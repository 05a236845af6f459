import ModalLexer.Proofs.Progress
import ModalLexer.Proofs.Spelling
import ModalLexer.Text.Integer

/-! Numbers. A run of digits and dots of any length is read whole, and it is a number just where it
has no dot and its decimal value fits; reading it digit by digit finds the same limit. -/
namespace ModalLexer
open Unicode (isBlank)

namespace Text.Integer

theorem checkedNatural (n : Nat) :
    checked (Int.ofNat n) = if n ≤ largestNumber then some (Int.ofNat n) else none := by
  have fits : (least ≤ Int.ofNat n ∧ Int.ofNat n ≤ greatest) ↔ n ≤ largestNumber := by
    simp only [least, greatest, largestNumber, Int.ofNat_eq_natCast]
    omega
  simp only [checked, fits]

theorem pushDigit {c : Char} (digit : c.isDigit = true) (n : Nat) :
    push (Int.ofNat n) c = checked (Int.ofNat (10 * n + (c.toNat - '0'.toNat))) := by
  have tens : Int.ofNat n * 10 = Int.ofNat (10 * n) := by
    simp only [Int.ofNat_eq_natCast]
    omega
  rw [push, tens, checkedNatural, digit?, if_pos digit]
  split
  · rfl
  · next large =>
    rw [checkedNatural, if_neg (by omega)]
    rfl

theorem pushOther {c : Char} (other : c.isDigit = false) (value : Int) : push value c = none := by
  rw [push, digit?, if_neg (by simp [other])]
  cases checked (value * 10) <;> rfl

theorem digitsGrow (digits : List Char) (n : Nat) : n ≤ Nat.ofDigitChars 10 digits n := by
  induction digits generalizing n with
  | nil => exact Nat.le_refl n
  | cons c rest ih =>
    rw [Nat.ofDigitChars_cons]
    have grown := ih (10 * n + (c.toNat - '0'.toNat))
    omega

/- By induction on the digits: a value that does not fit on the way only grows from there. -/
theorem pushDigits {digits : List Char} (inside : ∀ c ∈ digits, c.isDigit = true) {n : Nat}
    (fits : n ≤ largestNumber) :
    digits.foldlM push (Int.ofNat n) = checked (Int.ofNat (Nat.ofDigitChars 10 digits n)) := by
  induction digits generalizing n with
  | nil =>
    rw [Nat.ofDigitChars_nil, checkedNatural, if_pos fits]
    rfl
  | cons c rest ih =>
    obtain ⟨digit, others⟩ := List.forall_mem_cons.mp inside
    rw [List.foldlM_cons, pushDigit digit, Nat.ofDigitChars_cons, checkedNatural]
    split
    · next small => exact ih others small
    · next large =>
      have grown := digitsGrow rest (10 * n + (c.toNat - '0'.toNat))
      rw [checkedNatural, if_neg (by omega)]
      rfl

theorem pushUndigited {digits : List Char} {c : Char} (member : c ∈ digits)
    (other : c.isDigit = false) (value : Int) : digits.foldlM push value = none := by
  induction digits generalizing value with
  | nil => contradiction
  | cons first rest ih =>
    rw [List.foldlM_cons]
    rcases List.mem_cons.mp member with rfl | later
    · rw [pushOther other]
      rfl
    · cases push value first with
      | none => rfl
      | some next => exact ih later next

end Text.Integer

structure Numerals (text run rest : List Char) : Prop where
  split : text = run ++ rest
  inside : ∀ c ∈ run, c.isDigit = true ∨ c = '.'
  stop : ∀ c ∈ rest.head?, c.isDigit = false ∧ c ≠ '.'

theorem numeralsTaken (text : List Char) :
    Numerals text (text.takeWhile isNumeral) (text.dropWhile isNumeral) := by
  refine ⟨List.takeWhile_append_dropWhile.symm, ?_, ?_⟩
  · intro c member
    simpa [isNumeral] using Piece.takenNumerals text c member
  · intro c head
    exact (numeralExact c).mp (headAfterDrop isNumeral text c head)

theorem numberValue (run : List Char) :
    numberOf? run =
      if '.' ∉ run ∧ Nat.ofDigitChars 10 run 0 ≤ 9223372036854775807 then
        some (Nat.ofDigitChars 10 run 0)
      else none := by
  unfold numberOf?
  split
  · next dot => rw [if_neg fun fits => fits.1 dot]
  · next noDot => exact if_congr (and_iff_right noDot).symm rfl rfl

theorem numberAccumulated {run : List Char} (filled : run ≠ [])
    (inside : ∀ c ∈ run, c.isDigit = true ∨ c = '.') :
    Text.Integer.ofDigits? run = (numberOf? run).map Int.ofNat := by
  unfold Text.Integer.ofDigits? numberOf?
  rw [if_neg filled]
  split
  · next dot => exact Text.Integer.pushUndigited dot (by decide) 0
  · next noDot =>
    have digits : ∀ c ∈ run, c.isDigit = true := fun c member =>
      (inside c member).resolve_right fun dot => noDot (dot ▸ member)
    have whole := Text.Integer.pushDigits digits (Nat.zero_le largestNumber)
    rw [Text.Integer.checkedNatural] at whole
    refine whole.trans ?_
    dsimp only
    split <;> rfl

namespace Session

variable {source : String} {s : Session}

theorem numeralsAsked {blanks text run rest : List Char} (going : s.ended = false)
    (basic : s.mode = .basic) (split : s.rest = blanks ++ text)
    (gap : ∀ c ∈ blanks, isBlank c = true) (numerals : Numerals text run rest)
    (starts : ∃ c ∈ text.head?, c.isDigit = true) :
    let start := s.pos + utf8Size blanks
    let stop := start + utf8Size run
    s.next.2.pos = stop ∧ s.next.2.rest = rest ∧
      s.next.1 =
        match numberOf? run with
        | some value => .ok ⟨.number value, .between start stop⟩
        | none => .error (.numberOverflow (.between start stop) (String.ofList run)) := by
  obtain ⟨whole, inside, stop⟩ := numerals
  obtain ⟨c, head, digit⟩ := starts
  have first : ∀ x ∈ text.head?, isBlank x = false := by
    intro x same
    cases Option.mem_unique head same
    exact digitNoBlank digit
  have within : ∀ x ∈ run, isNumeral x = true := by
    intro x member
    simpa [isNumeral] using inside x member
  have ends : ∀ x ∈ rest.head?, isNumeral x = false :=
    fun x same => (numeralExact x).mpr (stop x same)
  have number : Piece.read .basic text = Piece.number text := by
    cases text with
    | nil => contradiction
    | cons d more =>
      cases head
      exact Piece.readNumber digit more
  have mode : (s.past blanks text).mode = .basic := basic
  have asked : s.next = (s.past blanks text).read := nextPast going split gap first
  rw [read, mode, show (s.past blanks text).rest = text from rfl, number, whole,
    Piece.numberExact within ends] at asked
  rw [asked]
  cases numberOf? run <;> exact ⟨rfl, rfl, rfl⟩

theorem numberYielded {t : Token} {after : Session} {value : Int} (asked : s.Yields (.ok t) after)
    (number : t.kind = .number value) : 0 ≤ value ∧ value ≤ 9223372036854775807 := by
  have more : t.isEof = false := by
    rw [← Bool.not_eq_true, isEofExact, number]
    simp
  obtain ⟨blanks, lexeme, _, _, _, rule, _⟩ := yieldsRule asked more
  rw [number] at rule
  generalize s.mode = mode, after.mode = next at rule
  cases rule with
  | number filled inside stop fits =>
    simp only [largestNumber] at fits
    omega

/-- In basic mode a digit that comes next, behind blanks at most, opens a run of digits and dots that
is read whole. It is a number where it has no dot and its value fits, and too large a number else;
so no number that is read from a source is negative. -/
theorem numbersExact (reached : Reached source s) :
    (∀ blanks first text, s.mode = .basic → s.rest = blanks ++ first :: text →
      (∀ c ∈ blanks, isBlank c = true) → first.isDigit = true →
        ∃ run rest, Numerals (first :: text) run rest ∧
          let value := Nat.ofDigitChars 10 run 0
          let fits := '.' ∉ run ∧ value ≤ 9223372036854775807
          let start := s.pos + utf8Size blanks
          let stop := start + utf8Size run
          let span := Span.between start stop
          s.next.2.pos = stop ∧ s.next.2.rest = rest ∧
            s.next.1 = (if fits then .ok ⟨.number value, span⟩
              else .error ⟨span, .numberOverflow (String.ofList run), .number span.start⟩) ∧
            Text.Integer.ofDigits? run = (if fits then some (value : Int) else none) ∧
            (source.utf8ByteSize ≤ largestOffset → span = ⟨start, stop⟩)) ∧
      ∀ call t value, (s.answer call).1.result? = some (.ok t) → t.kind = .number value →
        0 ≤ value ∧ value ≤ 9223372036854775807 := by
  constructor
  · intro blanks first text basic split gap digit
    have numerals := numeralsTaken (first :: text)
    generalize (first :: text).takeWhile isNumeral = run at numerals
    generalize (first :: text).dropWhile isNumeral = rest at numerals
    have going : s.ended = false := by
      rw [← Bool.not_eq_true]
      intro ended
      rw [reachedDrained reached ended] at split
      simp at split
    obtain ⟨place, left, result⟩ := numeralsAsked going basic split gap numerals ⟨first, rfl, digit⟩
    have filled : run ≠ [] := by
      rintro rfl
      have same : first :: text = rest := numerals.split
      have other := (numerals.stop first (by rw [← same]; rfl)).1
      rw [digit] at other
      contradiction
    refine ⟨run, rest, numerals, place, left, ?_, ?_, ?_⟩
    · rw [result, numberValue]
      split_ifs <;> rfl
    · rw [numberAccumulated filled numerals.inside, numberValue]
      split_ifs <;> rfl
    · intro small
      have bounded := reachedBounded small reached
      apply betweenExact (Nat.le_add_right _ _)
      simp only [Bounded, split, numerals.split, utf8SizeAppend] at bounded
      omega
  · intro call t value given number
    rcases answerAsked s call with ⟨after, finished, asked, same, _⟩ | ⟨none, _⟩
    · rw [same] at given
      rw [Option.some.inj given] at asked
      exact numberYielded asked number
    · rw [none] at given
      contradiction

theorem paddedLimitRead :
    let source := "é\\a\t0009223372036854775807+9223372036854775808"
    let s := ((start source .basic).answer .next).2
    Reached source s ∧ s.mode = .basic ∧
      s.rest = ['\t'] ++ '0' :: "009223372036854775807+9223372036854775808".toList ∧
      s.next.1 = .ok ⟨.number 9223372036854775807, ⟨5, 27⟩⟩ ∧
      (∃ run rest, Numerals "0009223372036854775807+9223372036854775808".toList run rest ∧
        s.next.2.pos = 5 + utf8Size run ∧ s.next.2.rest = rest ∧
        Text.Integer.ofDigits? run = some 9223372036854775807) ∧
      (0 : Int) ≤ 9223372036854775807 := by
  intro source s
  have reached : Reached source s := .call (.start .basic) .next
  have text : s.rest = ['\t'] ++ '0' :: "009223372036854775807+9223372036854775808".toList := by
    decide +kernel
  have given : s.next.1 = .ok ⟨.number 9223372036854775807, ⟨5, 27⟩⟩ := by decide +kernel
  have place : s.pos + utf8Size ['\t'] = 5 := by decide +kernel
  have mode : s.mode = .basic := by decide +kernel
  obtain ⟨read, signless⟩ := numbersExact reached
  obtain ⟨run, rest, numerals, stop, left, result, digits, _⟩ :=
    read _ _ _ mode text (List.forall_mem_singleton.mpr (by decide)) (by decide)
  rw [given] at result
  split_ifs at result with fits
  rw [if_pos fits] at digits
  have value : (9223372036854775807 : Int) = Nat.ofDigitChars 10 run 0 :=
    Kind.number.inj (Token.mk.inj (Except.ok.inj result)).1
  rw [← value] at digits
  rw [place] at stop
  refine ⟨reached, mode, text, given, ⟨run, rest, numerals, stop, left, digits⟩, ?_⟩
  exact (signless .next _ _ (congrArg some given) rfl).1

example : Text.Integer.ofDigits? "9223372036854775808".toList = none := by decide

end Session
end ModalLexer
