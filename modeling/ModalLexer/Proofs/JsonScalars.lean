import ModalLexer.Proofs.Legible
import ModalLexer.Text.Json.Reader

/-! Strings and numerals are read exactly: what a reader takes off a text is spelled as the grammar
has it, and what is so spelled is taken off any text, as long as what follows cannot continue it. -/
namespace ModalLexer.Text.Json

variable {text rest : List Char}

theorem unitSound {n : Nat} (read : unit? text = some (n, rest)) :
    ∃ digits, digits.length = 4 ∧ hexValue? digits = some n ∧ text = digits ++ rest := by
  unfold unit? at read
  split at read
  · next four =>
    obtain ⟨value, same, pair⟩ := Option.map_eq_some_iff.mp read
    cases pair
    exact ⟨text.take 4, four, same, (List.take_append_drop 4 text).symm⟩
  · contradiction

theorem unitComplete {digits : List Char} {n : Nat} (four : digits.length = 4)
    (value : hexValue? digits = some n) (rest : List Char) :
    unit? (digits ++ rest) = some (n, rest) := by
  have front : (digits ++ rest).take 4 = digits := List.take_left' four
  have back : (digits ++ rest).drop 4 = rest := List.drop_left' four
  rw [unit?, front, back, if_pos four, value]
  rfl

theorem highHalf {n : Nat} (half : ¬ n.isValidChar) (high : n < 0xDC00) :
    ∃ h, n = 0xD800 + h ∧ h < 0x400 := by
  unfold Nat.isValidChar at half
  exact ⟨n - 0xD800, by omega, by omega⟩

theorem lowHalfSound {n : Nat} {c : Char} (read : lowHalf? n text = some (c, rest)) :
    ∃ low l, low.length = 4 ∧ hexValue? low = some (0xDC00 + l) ∧ l < 0x400 ∧
      c = Char.ofNat (0x10000 + (n - 0xD800) * 0x400 + l) ∧ text = '\\' :: 'u' :: (low ++ rest) := by
  unfold lowHalf? at read
  split at read
  · simp only [bind, Option.bind_eq_some_iff] at read
    obtain ⟨⟨low, last⟩, unit, read⟩ := read
    split at read
    · next within =>
      simp only [Option.some.injEq, Prod.mk.injEq] at read
      obtain ⟨rfl, rfl⟩ := read
      obtain ⟨digits, four, value, rfl⟩ := unitSound unit
      refine ⟨digits, low - 0xDC00, four, ?_, by omega, rfl, rfl⟩
      rw [value, Nat.add_sub_cancel' within.1]
    · contradiction
  · contradiction

theorem lowHalfComplete {low : List Char} {n l : Nat} (four : low.length = 4)
    (value : hexValue? low = some (0xDC00 + l)) (small : l < 0x400) (rest : List Char) :
    lowHalf? n ('\\' :: 'u' :: (low ++ rest)) =
      some (Char.ofNat (0x10000 + (n - 0xD800) * 0x400 + l), rest) := by
  have within : 0xDC00 ≤ 0xDC00 + l ∧ 0xDC00 + l < 0xE000 := by omega
  simp only [lowHalf?, unitComplete four value, bind, Option.bind]
  rw [if_pos within, Nat.add_sub_cancel_left]

theorem charSound {c : Char} (read : char? text = some (c, rest)) :
    ∃ spelling, Spelled c spelling ∧ text = spelling ++ rest := by
  unfold char? at read
  split at read
  · simp only [bind, Option.bind_eq_some_iff] at read
    obtain ⟨⟨n, last⟩, unit, read⟩ := read
    obtain ⟨digits, four, value, rfl⟩ := unitSound unit
    split at read
    · next scalar =>
      cases read
      exact ⟨_, .unit four value scalar, rfl⟩
    · next half =>
      split at read
      · next high =>
        obtain ⟨h, rfl, small⟩ := highHalf half high
        obtain ⟨low, l, more, second, little, rfl, rfl⟩ := lowHalfSound read
        rw [Nat.add_sub_cancel_left]
        exact ⟨_, .pair four more value small second little, by simp⟩
      · contradiction
  · next sign last _ =>
    obtain ⟨d, found, pair⟩ := Option.map_eq_some_iff.mp read
    cases pair
    obtain ⟨before, after, split, _⟩ := List.lookup_eq_some_iff.mp found
    have member : (sign, c) ∈ shorts.map Prod.swap := by simp [split]
    obtain ⟨⟨d, other⟩, inside, swapped⟩ := List.mem_map.mp member
    cases swapped
    exact ⟨_, .short inside, rfl⟩
  · split at read
    · next above =>
      cases read
      exact ⟨_, .plain above.1 above.2.1 above.2.2, rfl⟩
    · contradiction
  · contradiction

theorem charComplete {c : Char} {spelling : List Char} (spelled : Spelled c spelling)
    (rest : List Char) : char? (spelling ++ rest) = some (c, rest) := by
  cases spelled with
  | plain above unquoted unescaped =>
    unfold char?
    split
    · next same => cases same; contradiction
    · next same => cases same; contradiction
    · next same =>
      cases same
      exact if_pos ⟨above, unquoted, unescaped⟩
    · contradiction
  | short member =>
    revert member
    simp only [shorts, named, List.mem_cons, List.not_mem_nil, or_false, Prod.mk.injEq]
    rintro (⟨rfl, rfl⟩ | ⟨rfl, rfl⟩ | ⟨rfl, rfl⟩ | ⟨rfl, rfl⟩ | ⟨rfl, rfl⟩ | ⟨rfl, rfl⟩ |
      ⟨rfl, rfl⟩ | ⟨rfl, rfl⟩) <;> rfl
  | unit four value scalar =>
    simp only [char?, List.cons_append, unitComplete four value, bind, Option.bind]
    exact if_pos scalar
  | @pair high low h l four more first small second little =>
    have half : ¬ (0xD800 + h).isValidChar := by unfold Nat.isValidChar; omega
    have below : 0xD800 + h < 0xDC00 := by omega
    simp only [char?, List.cons_append, List.append_assoc, unitComplete four first, bind, Option.bind]
    rw [if_neg half, if_pos below, lowHalfComplete more second little, Nat.add_sub_cancel_left]

theorem spelledStart {c : Char} {spelling : List Char} (spelled : Spelled c spelling) :
    ∃ d more, spelling = d :: more ∧ d ≠ '"' := by
  cases spelled with
  | plain _ unquoted _ => exact ⟨_, _, rfl, unquoted⟩
  | short _ => exact ⟨_, _, rfl, by decide⟩
  | unit _ _ _ => exact ⟨_, _, rfl, by decide⟩
  | pair _ _ _ _ _ _ => exact ⟨_, _, rfl, by decide⟩

theorem charsSound {bound : Nat} {inside : List Char}
    (read : chars? bound text = some (inside, rest)) :
    ∃ spelled, Spellings inside spelled ∧ text = spelled ++ '"' :: rest := by
  induction bound generalizing text inside with
  | zero => cases read
  | succ bound ih =>
    unfold chars? at read
    split at read
    · next quote =>
      cases read
      obtain ⟨after, same⟩ := List.head?_eq_some_iff.mp quote
      subst same
      exact ⟨[], .nil, rfl⟩
    · simp only [bind, Option.bind_eq_some_iff] at read
      obtain ⟨⟨c, after⟩, first, ⟨more, last⟩, later, pair⟩ := read
      cases pair
      obtain ⟨spelling, spelled, rfl⟩ := charSound first
      obtain ⟨others, spellings, rfl⟩ := ih later
      exact ⟨spelling ++ others, .cons spelled spellings, by simp⟩

theorem charsComplete {inside spelled : List Char} (spellings : Spellings inside spelled)
    {bound : Nat} (enough : spelled.length < bound) (rest : List Char) :
    chars? bound (spelled ++ '"' :: rest) = some (inside, rest) := by
  induction spellings generalizing bound with
  | nil =>
    cases bound with
    | zero => contradiction
    | succ bound => rfl
  | @cons c spelling text more first later ih =>
    cases bound with
    | zero => contradiction
    | succ bound =>
      obtain ⟨d, tail, rfl, unquoted⟩ := spelledStart first
      have start : (d :: tail ++ (more ++ '"' :: rest)).head? ≠ some '"' := by simp [unquoted]
      have fewer : more.length < bound := by
        simp only [List.length_append, List.length_cons] at enough
        omega
      rw [List.append_assoc, chars?, if_neg start, charComplete first]
      simp only [bind, Option.bind, ih fewer]

theorem stringSound {inside : String} (read : string? text = some (inside, rest)) :
    ∃ front, Quotation inside front ∧ text = front ++ rest := by
  unfold string? at read
  split at read
  · obtain ⟨⟨chars, last⟩, found, pair⟩ := Option.map_eq_some_iff.mp read
    cases pair
    obtain ⟨spelled, spellings, rfl⟩ := charsSound found
    exact ⟨_, .quoted spellings, by simp⟩
  · contradiction

theorem stringComplete {inside : String} {front : List Char} (quotation : Quotation inside front)
    (rest : List Char) : string? (front ++ rest) = some (inside, rest) := by
  obtain ⟨spellings⟩ := quotation
  simp only [string?, List.cons_append, List.append_assoc, List.nil_append]
  rw [charsComplete spellings (by rw [List.length_append, List.length_cons]; omega)]
  rfl

theorem digitsSound {digits : List Char} (read : digits? text = some (digits, rest)) :
    Digits digits ∧ text = digits ++ rest := by
  unfold digits? at read
  split at read
  · contradiction
  · next filled =>
    cases read
    exact ⟨⟨filled, List.all_eq_true.mp List.all_takeWhile⟩,
      List.takeWhile_append_dropWhile.symm⟩

theorem digitsComplete {digits : List Char} (proper : Digits digits) (follow : Undigited rest) :
    digits? (digits ++ rest) = some (digits, rest) := by
  rw [digits?, takeWhileExact proper.2 follow, dropWhileExact proper.2 follow, if_neg proper.1]

theorem signParts (signs text : List Char) :
    text = (takeSign signs text).1 ++ (takeSign signs text).2 ∧
      ((takeSign signs text).1 = [] ∨ ∃ c ∈ signs, (takeSign signs text).1 = [c]) := by
  unfold takeSign
  split
  · next c rest =>
    split
    · next sign => exact ⟨rfl, .inr ⟨c, sign, rfl⟩⟩
    · exact ⟨rfl, .inl rfl⟩
  · exact ⟨rfl, .inl rfl⟩

theorem signComplete {signs sign : List Char} (proper : sign = [] ∨ ∃ c ∈ signs, sign = [c])
    (follow : ∀ c ∈ rest.head?, c ∉ signs) : takeSign signs (sign ++ rest) = (sign, rest) := by
  rcases proper with rfl | ⟨c, member, rfl⟩
  · cases rest with
    | nil => rfl
    | cons c after => exact if_neg (follow c rfl)
  · exact if_pos member

theorem digitsStart {digits : List Char} (proper : Digits digits) (rest : List Char) :
    ∃ c more, digits ++ rest = c :: more ∧ c.isDigit = true := by
  obtain ⟨filled, digital⟩ := proper
  cases digits with
  | nil => contradiction
  | cons c more => exact ⟨c, more ++ rest, rfl, digital c List.mem_cons_self⟩

theorem digitsUnsigned {signs digits : List Char} (proper : Digits digits)
    (others : signs.all (!·.isDigit) = true) : ∀ c ∈ (digits ++ rest).head?, c ∉ signs := by
  obtain ⟨d, more, split, digit⟩ := digitsStart proper rest
  rw [split]
  rintro c ⟨⟩ member
  have undigited := List.all_eq_true.mp others d member
  rw [digit] at undigited
  contradiction

theorem fractionSound {digits : List Char} (read : fraction? text = some (digits, rest)) :
    (∀ c ∈ digits, c.isDigit = true) ∧ text = Numeral.fractionText digits ++ rest := by
  unfold fraction? at read
  split at read
  · obtain ⟨⟨filled, digital⟩, rfl⟩ := digitsSound read
    exact ⟨digital, by simp [Numeral.fractionText, filled]⟩
  · cases read
    exact ⟨by simp, rfl⟩

theorem fractionComplete {digits : List Char} (digital : ∀ c ∈ digits, c.isDigit = true)
    (follow : Undigited rest) (pointless : rest.head? ≠ some '.') :
    fraction? (Numeral.fractionText digits ++ rest) = some (digits, rest) := by
  unfold Numeral.fractionText
  split
  · next none =>
    subst none
    cases rest with
    | nil => rfl
    | cons c after =>
      have other : c ≠ '.' := fun same => pointless (congrArg some same)
      rw [List.nil_append, fraction?.eq_def]
      split
      · next same => cases same; exact absurd rfl other
      · rfl
  · next filled => exact digitsComplete ⟨filled, digital⟩ follow

theorem powerSound {power : Option Power} (read : power? text = some (power, rest)) :
    (∀ p ∈ power, p.Proper) ∧ text = Numeral.powerText power ++ rest := by
  unfold power? at read
  split at read
  · next c after =>
    split at read
    · next letter =>
      simp only [bind, Option.bind_eq_some_iff] at read
      obtain ⟨⟨digits, last⟩, found, pair⟩ := read
      cases pair
      obtain ⟨parts, sign⟩ := signParts ['+', '-'] after
      obtain ⟨proper, tail⟩ := digitsSound found
      refine ⟨by simpa using Power.Proper.mk letter sign proper, ?_⟩
      rw [tail] at parts
      simpa [Numeral.powerText, Power.text] using parts
    · cases read
      exact ⟨by simp, rfl⟩
  · cases read
    exact ⟨by simp, rfl⟩

theorem powerComplete {power : Option Power} (proper : ∀ p ∈ power, p.Proper)
    (follow : Undigited rest) (unpowered : ∀ c ∈ rest.head?, c ≠ 'e' ∧ c ≠ 'E') :
    power? (Numeral.powerText power ++ rest) = some (power, rest) := by
  cases power with
  | none =>
    cases rest with
    | nil => rfl
    | cons c after =>
      obtain ⟨lower, upper⟩ := unpowered c rfl
      exact if_neg (not_or.mpr ⟨lower, upper⟩)
  | some p =>
    obtain ⟨letter, sign, digits⟩ := proper p rfl
    have unsigned : takeSign ['+', '-'] (p.sign ++ (p.digits ++ rest)) = (p.sign, p.digits ++ rest) :=
      signComplete sign (digitsUnsigned digits (by decide))
    simp only [Numeral.powerText, Power.text, Option.map_some, Option.getD_some, List.cons_append,
      List.append_assoc, power?, if_pos letter, unsigned, digitsComplete digits follow, bind,
      Option.bind]

theorem numeralSound {n : Numeral} (read : numeral? text = some (n, rest)) :
    n.Proper ∧ text = n.text ++ rest := by
  simp only [numeral?, bind, Option.bind_eq_some_iff] at read
  obtain ⟨⟨whole, afterWhole⟩, digits, ⟨fraction, afterFraction⟩, point, ⟨power, last⟩, raised,
    read⟩ := read
  split at read
  · contradiction
  · next led =>
    cases read
    dsimp only at point raised led
    obtain ⟨parts, sign⟩ := signParts ['-'] text
    obtain ⟨proper, front⟩ := digitsSound digits
    obtain ⟨digital, middle⟩ := fractionSound point
    obtain ⟨powers, back⟩ := powerSound raised
    constructor
    · exact ⟨sign, proper, fun zero => Classical.not_not.mp fun more => led ⟨zero, more⟩, digital,
        powers⟩
    · rw [front, middle, back] at parts
      simpa [Numeral.text] using parts

def Closed (follow : List Char) : Prop :=
  ∀ c ∈ follow.head?, isSpace c = true ∨ c ∈ [',', ']', '\x7d']

def Unnumbered (follow : List Char) : Prop :=
  ∀ c ∈ follow.head?, c.isDigit = false ∧ c ≠ '.' ∧ c ≠ 'e' ∧ c ≠ 'E'

theorem closedUnnumbered (closed : Closed rest) : Unnumbered rest := by
  intro c head
  rcases closed c head with space | mark
  · simp only [isSpace, Bool.or_eq_true, beq_iff_eq] at space
    rcases space with ((rfl | rfl) | rfl) | rfl <;> decide
  · simp only [List.mem_cons, List.not_mem_nil, or_false] at mark
    rcases mark with rfl | rfl | rfl <;> decide

theorem powerFollow {power : Option Power} (proper : ∀ p ∈ power, p.Proper)
    (follow : Unnumbered rest) :
    ∀ c ∈ (Numeral.powerText power ++ rest).head?, c.isDigit = false ∧ c ≠ '.' := by
  cases power with
  | none =>
    exact fun c head => ⟨(follow c head).1, (follow c head).2.1⟩
  | some p =>
    rintro c ⟨⟩
    rcases (proper p rfl).letter with letter | letter <;> rw [letter] <;> decide

theorem fractionFollow {digits : List Char}
    (follow : ∀ c ∈ rest.head?, c.isDigit = false ∧ c ≠ '.') :
    Undigited (Numeral.fractionText digits ++ rest) := by
  unfold Numeral.fractionText
  split
  · exact fun c head => (follow c head).1
  · rintro c ⟨⟩
    decide

theorem numeralComplete {n : Numeral} (proper : n.Proper) (closed : Closed rest) :
    numeral? (n.text ++ rest) = some (n, rest) := by
  have follow := closedUnnumbered closed
  have behind := powerFollow proper.power follow
  have unsigned : takeSign ['-'] (n.text ++ rest) = (n.sign, n.whole ++
      (Numeral.fractionText n.fraction ++ (Numeral.powerText n.power ++ rest))) := by
    simp only [Numeral.text, List.append_assoc]
    exact signComplete proper.sign (digitsUnsigned proper.whole (by decide))
  have fraction := fractionComplete proper.fraction (fun c head => (behind c head).1)
    (fun head => (behind _ head).2 rfl)
  have power := powerComplete proper.power (fun c head => (follow c head).1)
    (fun c head => (follow c head).2.2)
  have led : ¬ (n.whole.head? = some '0' ∧ n.whole ≠ ['0']) :=
    fun zero => zero.2 (proper.leading zero.1)
  simp only [numeral?, unsigned, digitsComplete proper.whole (fractionFollow behind), fraction, power,
    bind, Option.bind, if_neg led]

end ModalLexer.Text.Json
