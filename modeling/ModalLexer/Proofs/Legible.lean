import ModalLexer.Proofs.Glyph
import ModalLexer.Text.Hex
import ModalLexer.Text.Quoted

/-! Legible writing: what was written can be told from the text alone, in front of any text that does
not continue it. Numerals are legible in front of all but digits, quoted text in front of anything.
Neither has a control in it. -/
namespace ModalLexer.Text

open Unicode (isControl)

def Legible {α : Type} (write : α → List Char) (follows : List Char → Prop) : Prop :=
  ∀ a b x y, follows x → follows y → write a ++ x = write b ++ y → a = b ∧ x = y

def Anything (_ : List Char) : Prop := True

def Undigited (follow : List Char) : Prop := ∀ c ∈ follow.head?, c.isDigit = false

theorem legibleWhole {α : Type} {write : α → List Char} {follows : List Char → Prop} {a b : α}
    (legible : Legible write follows) (ends : follows []) (same : write a = write b) : a = b :=
  (legible a b [] [] ends ends (congrArg (· ++ []) same)).1

theorem undigitedEnd : Undigited [] := by simp [Undigited]

theorem runUnique {p : Char → Bool} {left other x y : List Char} (inside : ∀ c ∈ left, p c = true)
    (alike : ∀ c ∈ other, p c = true) (stop : ∀ c ∈ x.head?, p c = false)
    (halt : ∀ c ∈ y.head?, p c = false) (same : left ++ x = other ++ y) : left = other ∧ x = y := by
  have front := congrArg (List.takeWhile p) same
  have back := congrArg (List.dropWhile p) same
  rw [takeWhileExact inside stop, takeWhileExact alike halt] at front
  rw [dropWhileExact inside stop, dropWhileExact alike halt] at back
  exact ⟨front, back⟩

def Visible (text : List Char) : Prop := ∀ c ∈ text, isControl c = false

instance (text : List Char) : Decidable (Visible text) := List.decidableBAll _ text

theorem visibleAppend {left right : List Char} :
    Visible (left ++ right) ↔ Visible left ∧ Visible right := List.forall_mem_append

theorem visibleCons {c : Char} {text : List Char} :
    Visible (c :: text) ↔ isControl c = false ∧ Visible text := List.forall_mem_cons

theorem visibleOne {c : Char} : Visible [c] ↔ isControl c = false := List.forall_mem_singleton

theorem digitVisible {c : Char} (digit : c.isDigit = true) : isControl c = false := by
  have bounds : 48 ≤ c.toNat ∧ c.toNat ≤ 57 := Char.isDigit_iff_toNat.mp digit
  rw [← Bool.not_eq_true, Unicode.controlExact]
  omega

theorem naturalDigits (n : Nat) : (toString n).toList = Nat.toDigits 10 n := by
  rw [Nat.toString_eq_ofList_toDigits, String.toList_ofList]

theorem digitWritten {n : Nat} {c : Char} (member : c ∈ (toString n).toList) :
    c.isDigit = true := by
  rw [naturalDigits] at member
  exact Nat.isDigit_of_mem_toDigits (by decide) (by decide) member

theorem naturalStarts (n : Nat) : ∃ c rest, (toString n).toList = c :: rest ∧ c.isDigit = true := by
  cases text : (toString n).toList with
  | nil => exact absurd ((naturalDigits n).symm.trans text) Nat.toDigits_ne_nil
  | cons c rest =>
    have member : c ∈ (toString n).toList := text ▸ List.mem_cons_self
    exact ⟨c, rest, rfl, digitWritten member⟩

theorem naturalLegible : Legible (fun n : Nat => (toString n).toList) Undigited := by
  intro a b x y outside other same
  obtain ⟨digits, rest⟩ := runUnique (fun _ member => digitWritten member)
    (fun _ member => digitWritten member) outside other same
  have value := congrArg (Nat.ofDigitChars 10 · 0) digits
  simp only [naturalDigits, Nat.ofDigitChars_ten_toDigits] at value
  exact ⟨value, rest⟩

theorem negativeText (n : Nat) :
    (toString (Int.negSucc n)).toList = '-' :: (toString (n + 1)).toList := by
  show ("-" ++ toString (n + 1)).toList = _
  rw [String.toList_append]
  rfl

theorem naturalVisible (n : Nat) : Visible (toString n).toList :=
  fun _ member => digitVisible (digitWritten member)

theorem integerVisible (z : Int) : Visible (toString z).toList := by
  cases z with
  | ofNat n => exact naturalVisible n
  | negSucc n =>
    rw [negativeText]
    exact visibleCons.mpr ⟨by decide, naturalVisible (n + 1)⟩

theorem naturalUnsigned {n m : Nat} {x y : List Char} :
    (toString n).toList ++ x ≠ '-' :: ((toString m).toList ++ y) := by
  intro same
  obtain ⟨c, rest, starts, digit⟩ := naturalStarts n
  rw [starts, List.cons_append, List.cons.injEq] at same
  rw [same.1] at digit
  exact absurd digit (by decide)

theorem integerLegible : Legible (fun z : Int => (toString z).toList) Undigited := by
  intro a b x y outside other same
  cases a with
  | ofNat n =>
    cases b with
    | ofNat m =>
      obtain ⟨value, rest⟩ := naturalLegible n m x y outside other same
      exact ⟨congrArg Int.ofNat value, rest⟩
    | negSucc m =>
      simp only [negativeText] at same
      exact absurd same naturalUnsigned
  | negSucc n =>
    simp only [negativeText] at same
    cases b with
    | ofNat m => exact absurd same.symm naturalUnsigned
    | negSucc m =>
      simp only [negativeText] at same
      obtain ⟨value, rest⟩ := naturalLegible _ _ x y outside other (List.cons.inj same).2
      exact ⟨congrArg Int.negSucc (Nat.succ.inj value), rest⟩

namespace Quoted

variable {mark c : Char} {hides : Char → Bool}

def unspell? : List Char → Option (Char × List Char)
  | '\\' :: 'u' :: '\x7b' :: rest =>
    (hexValue? (rest.takeWhile (· ≠ '\x7d'))).map fun code =>
      (Char.ofNat code, (rest.dropWhile (· ≠ '\x7d')).drop 1)
  | '\\' :: sign :: rest => some (((named.map Prod.swap).lookup sign).getD sign, rest)
  | c :: rest => some (c, rest)
  | [] => none

def isMark (mark : Char) : Bool := mark ≠ 'u' && ((named.map Prod.swap).lookup mark).isNone

theorem unspellNamed {sign : Char} (rest : List Char) (letter : named.lookup c = some sign) :
    unspell? ('\\' :: sign :: rest) = some (c, rest) := by
  have member : (c, sign) ∈ named := by
    obtain ⟨_, _, split, _⟩ := List.lookup_eq_some_iff.mp letter
    simp [split]
  revert member
  simp only [named, List.mem_cons, List.not_mem_nil, or_false, Prod.mk.injEq]
  rintro (⟨rfl, rfl⟩ | ⟨rfl, rfl⟩ | ⟨rfl, rfl⟩ | ⟨rfl, rfl⟩ | ⟨rfl, rfl⟩) <;> rfl

theorem unspellMark (proper : isMark mark = true) (rest : List Char) :
    unspell? ('\\' :: mark :: rest) = some (mark, rest) := by
  simp only [isMark, Bool.and_eq_true, decide_eq_true_eq, Option.isNone_iff_eq_none] at proper
  obtain ⟨letter, unnamed⟩ := proper
  unfold unspell?
  split
  · next same => cases same; contradiction
  · next same => cases same; rw [unnamed]; rfl
  · next other same => cases same; exact absurd rfl (other _ _ rfl)
  · contradiction

theorem unspellCodePoint (rest : List Char) :
    unspell? (codePoint c ++ rest) = some (c, rest) := by
  have inside : ∀ d ∈ Nat.toDigits 16 c.toNat, decide (d ≠ '\x7d') = true := by
    intro d member
    obtain ⟨digit, small, rfl⟩ := hexDigits _ d member
    exact (show ∀ n < 16, decide (Nat.digitChar n ≠ '\x7d') = true by decide) digit small
  have shape : codePoint c ++ rest =
      '\\' :: 'u' :: '\x7b' :: (Nat.toDigits 16 c.toNat ++ '\x7d' :: rest) := by
    simp [codePoint]
  rw [shape, unspell?, takeWhileExact inside (by simp), dropWhileExact inside (by simp)]
  simp [hexValueToDigits]

theorem unspellSpell (proper : isMark mark = true) (rest : List Char) :
    unspell? (spell mark hides c ++ rest) = some (c, rest) := by
  unfold spell
  split
  · next letter => exact unspellNamed rest letter
  · next unnamed =>
    split
    · next same => rw [same]; exact unspellMark proper rest
    · split
      · exact unspellCodePoint rest
      · have plain : c ≠ '\\' := by rintro rfl; contradiction
        unfold unspell?
        split <;> simp_all

theorem markNoEscape (proper : isMark mark = true) : mark ≠ '\\' := by
  rintro rfl
  exact absurd proper (by decide)

theorem spellStart (proper : isMark mark = true) : (spell mark hides c).head? ≠ some mark := by
  have escaped : some '\\' ≠ some mark := fun same => markNoEscape proper (Option.some.inj same).symm
  unfold spell
  split
  · exact escaped
  · split
    · exact escaped
    · next other =>
      split
      · exact escaped
      · exact fun same => other (Option.some.inj same)

theorem spellCons (c : Char) (text rest : List Char) :
    (c :: text).flatMap (spell mark hides) ++ rest =
      spell mark hides c ++ (text.flatMap (spell mark hides) ++ rest) := by
  rw [List.flatMap_cons, List.append_assoc]

theorem spellNoEnd (proper : isMark mark = true) (text x y : List Char) :
    mark :: x ≠ (c :: text).flatMap (spell mark hides) ++ y := by
  intro same
  have start : (spell mark hides c).head? ≠ some mark := spellStart proper
  rw [spellCons] at same
  cases spelled : spell mark hides c with
  | nil =>
    have read : unspell? (spell mark hides c ++ []) = some (c, []) := unspellSpell proper []
    rw [spelled] at read
    cases read
  | cons d more =>
    rw [spelled] at start same
    exact start (congrArg some (List.cons.inj same).1.symm)

theorem spellingsLegible (proper : isMark mark = true) {a b x y : List Char}
    (same : a.flatMap (spell mark hides) ++ mark :: x = b.flatMap (spell mark hides) ++ mark :: y) :
    a = b ∧ x = y := by
  induction a generalizing b with
  | nil =>
    cases b with
    | nil => exact ⟨rfl, (List.cons.inj same).2⟩
    | cons d more => exact absurd same (spellNoEnd proper more x _)
  | cons c rest ih =>
    cases b with
    | nil => exact absurd same.symm (spellNoEnd proper rest y _)
    | cons d more =>
      rw [spellCons, spellCons] at same
      have read := congrArg unspell? same
      rw [unspellSpell proper, unspellSpell proper] at read
      obtain ⟨rfl, later⟩ := Prod.mk.inj (Option.some.inj read)
      obtain ⟨rfl, follow⟩ := ih later
      exact ⟨rfl, follow⟩

theorem quoteText (text : List Char) :
    (quote mark hides text).toList = mark :: (text.flatMap (spell mark hides) ++ [mark]) :=
  String.toList_ofList

theorem quoteLegible (hides : Char → Bool) (proper : isMark mark = true) :
    Legible (fun text => (quote mark hides text).toList) Anything := by
  intro a b x y _ _ same
  simp only [quoteText, List.cons_append, List.append_assoc, List.nil_append] at same
  exact spellingsLegible proper (List.cons.inj same).2

theorem codePointVisible (c : Char) : Visible (codePoint c) := by
  have digits : Visible (Nat.toDigits 16 c.toNat) := by
    intro d member
    obtain ⟨digit, small, rfl⟩ := hexDigits _ d member
    exact (show ∀ n < 16, isControl (Nat.digitChar n) = false by decide) digit small
  exact visibleAppend.mpr ⟨visibleAppend.mpr ⟨by decide, digits⟩, by decide⟩

theorem spellVisible (covers : ∀ c, isControl c = true → hides c = true)
    (seen : isControl mark = false) : Visible (spell mark hides c) := by
  have escaped : isControl '\\' = false := by decide
  unfold spell
  split
  · next sign letter =>
    obtain ⟨before, after, split, _⟩ := List.lookup_eq_some_iff.mp letter
    have signs : ∀ r ∈ named, isControl r.2 = false := by decide
    exact visibleCons.mpr ⟨escaped, visibleOne.mpr (signs (c, sign) (by simp [split]))⟩
  · split
    · next same => exact visibleCons.mpr ⟨escaped, visibleOne.mpr (same ▸ seen)⟩
    · split
      · exact codePointVisible c
      · next shown =>
        exact visibleOne.mpr (Bool.eq_false_iff.mpr fun control => shown (covers c control))

theorem quoteVisible (covers : ∀ c, isControl c = true → hides c = true)
    (seen : isControl mark = false) (text : List Char) :
    Visible (quote mark hides text).toList := by
  have spelled : Visible (text.flatMap (spell mark hides)) := by
    intro d member
    obtain ⟨c, _, inside⟩ := List.mem_flatMap.mp member
    exact spellVisible covers seen d inside
  rw [quoteText]
  exact visibleCons.mpr ⟨seen, visibleAppend.mpr ⟨spelled, visibleOne.mpr seen⟩⟩

theorem stringVisible (covers : ∀ c, isControl c = true → hides c = true) (text : String) :
    Visible (string text hides).toList := quoteVisible covers (by decide) text.toList

theorem charVisible (covers : ∀ c, isControl c = true → hides c = true) (c : Char) :
    Visible (char c hides).toList := quoteVisible covers (by decide) [c]

theorem stringLegible (hides : Char → Bool) :
    Legible (fun text => (string text hides).toList) Anything := by
  intro a b x y _ _ same
  obtain ⟨text, follow⟩ := quoteLegible hides (by decide) a.toList b.toList x y trivial trivial same
  exact ⟨String.toList_inj.mp text, follow⟩

theorem charLegible (hides : Char → Bool) :
    Legible (fun c => (char c hides).toList) Anything := by
  intro a b x y _ _ same
  obtain ⟨text, follow⟩ := quoteLegible hides (by decide) [a] [b] x y trivial trivial same
  exact ⟨(List.cons.inj text).1, follow⟩

end Quoted
end ModalLexer.Text
