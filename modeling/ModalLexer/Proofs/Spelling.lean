import ModalLexer.Proofs.Join
import ModalLexer.Proofs.Legible

/-! Spellings: how tokens are written in basic text. Spellings with a space between them are read as
the tokens they spell, whatever the characters of a word are. -/
namespace ModalLexer
open Unicode (isBlank isLetter)

namespace Glyph

theorem ofCharProper (c : Char) : (ofChar c).Proper := by
  unfold ofChar
  split
  · next letter => exact letter
  · next other => exact Bool.eq_false_iff.mpr other

@[simp] theorem ofCharChar (c : Char) : (ofChar c).char = c := by
  unfold ofChar
  split <;> rfl

theorem lexemeUnblank {glyphs : List Glyph} (proper : ∀ g ∈ glyphs, Proper g) :
    ∀ c ∈ (lexeme glyphs).head?, isBlank c = false := by
  intro c head
  cases glyphs with
  | nil => contradiction
  | cons g more =>
    obtain ⟨first, tail, whole, starts⟩ := lexemeStarts proper (List.cons_ne_nil g more) []
    rw [List.append_nil] at whole
    rw [whole] at head
    cases head
    rcases starts with letter | rfl
    · exact letterNoBlank letter
    · decide

end Glyph

namespace Kind

def spelling : Kind → List Char
  | word text => Glyph.lexeme (text.toList.map Glyph.ofChar)
  | number value => (toString value).toList
  | symbol c => [c]
  | eof => []

/-- The tokens that basic text can spell: any word but the empty one, any number that fits, and the
characters that start neither a word nor a number, are skipped as blanks or change the mode. -/
def Spellable : Kind → Prop
  | word text => text ≠ ""
  | number value => 0 ≤ value ∧ value ≤ largestNumber
  | symbol c =>
    isLetter c = false ∧ c.isDigit = false ∧ isBlank c = false ∧ c ≠ escapeMark ∧ c ≠ switchMark
  | eof => False

instance : DecidablePred Spellable
  | word text => inferInstanceAs (Decidable (text ≠ ""))
  | number value => inferInstanceAs (Decidable (0 ≤ value ∧ value ≤ largestNumber))
  | symbol c => inferInstanceAs (Decidable (isLetter c = false ∧ c.isDigit = false ∧
      isBlank c = false ∧ c ≠ escapeMark ∧ c ≠ switchMark))
  | eof => inferInstanceAs (Decidable False)

end Kind

def spelled (kinds : List Kind) : String :=
  String.ofList ([' '].intercalate (kinds.map Kind.spelling))

structure Stands (k : Kind) : Prop where
  rule : Rule .basic k k.spelling none .basic
  first : ∀ c ∈ k.spelling.head?, isBlank c = false

theorem wordStands {text : String} (filled : text ≠ "") : Stands (.word text) := by
  have proper : ∀ g ∈ text.toList.map Glyph.ofChar, g.Proper := by
    intro g member
    obtain ⟨c, _, rfl⟩ := List.mem_map.mp member
    exact Glyph.ofCharProper c
  have glyphs : text.toList.map Glyph.ofChar ≠ [] := by
    simpa only [ne_eq, List.map_eq_nil_iff, String.toList_eq_nil_iff] using filled
  constructor
  · have rule := @Rule.word _ none glyphs proper (by simp)
    rw [List.map_map, show Glyph.char ∘ Glyph.ofChar = id from funext Glyph.ofCharChar, List.map_id,
      String.ofList_toList] at rule
    exact rule
  · exact Glyph.lexemeUnblank proper

theorem numberStands {n : Nat} (fits : n ≤ largestNumber) : Stands (.number n) := by
  obtain ⟨c, rest, starts, digit⟩ := Text.naturalStarts n
  have value : Nat.ofDigitChars 10 (toString n).toList 0 = n := by
    rw [Text.naturalDigits, Nat.ofDigitChars_ten_toDigits]
  have rule := @Rule.number (toString n).toList none (by rw [starts]; simp)
    (fun _ member => Text.digitWritten member) (by simp) (by rwa [value])
  rw [value] at rule
  refine ⟨rule, ?_⟩
  intro x head
  rw [show (Kind.number n).spelling = (toString n).toList from rfl, starts] at head
  cases head
  exact digitNoBlank digit

theorem spellableStands {k : Kind} (spellable : k.Spellable) : Stands k := by
  cases k with
  | word text => exact wordStands spellable
  | number value =>
    obtain ⟨lower, fits⟩ := spellable
    obtain ⟨n, rfl⟩ := Int.eq_ofNat_of_zero_le lower
    exact numberStands (Int.ofNat_le.mp fits)
  | symbol c =>
    obtain ⟨noLetter, noDigit, noBlank, noEscape, noMark⟩ := spellable
    refine ⟨.symbol noLetter noDigit noEscape noMark, ?_⟩
    intro x head
    cases head
    exact noBlank
  | eof => contradiction

theorem joinedCons (piece : List Char) (pieces : List (List Char)) :
    ∃ space, [' '].intercalate (piece :: pieces) = piece ++ (space ++ [' '].intercalate pieces) ∧
      (∀ c ∈ space, isBlank c = true) ∧
      ∀ c ∈ (space ++ [' '].intercalate pieces).head?, c = ' ' := by
  cases pieces with
  | nil => exact ⟨[], by simp, by simp, by simp⟩
  | cons next later => exact ⟨[' '], by simp, by simp [blankSpace], by simp⟩

namespace Session

/- By induction on the kinds: the session stands before the spellings that are left, with the space
after the last token still to be skipped. -/
theorem spelledLead {kinds : List Kind} (spellable : ∀ k ∈ kinds, k.Spellable) {s : Session}
    {blanks : List Char} (going : s.ended = false) (basic : s.mode = .basic)
    (gap : ∀ c ∈ blanks, isBlank c = true)
    (split : s.rest = blanks ++ [' '].intercalate (kinds.map Kind.spelling)) :
    ∃ tokens u, Lead s tokens u ∧ tokens.map Token.kind = kinds ∧ u.mode = .basic ∧
      ∀ c ∈ u.rest, isBlank c = true := by
  induction kinds generalizing s blanks with
  | nil => exact ⟨[], s, .nil s, rfl, basic, by rw [split]; simpa using gap⟩
  | cons k later ih =>
    obtain ⟨stands, others⟩ := List.forall_mem_cons.mp spellable
    obtain ⟨rule, first⟩ := spellableStands stands
    obtain ⟨space, joined, blank, spaced⟩ := joinedCons k.spelling (later.map Kind.spelling)
    rw [List.map_cons, joined] at split
    have follows : Rule s.mode k k.spelling
        (space ++ [' '].intercalate (later.map Kind.spelling)).head? .basic := by
      rw [basic]
      cases head : (space ++ [' '].intercalate (later.map Kind.spelling)).head? with
      | none => exact rule
      | some c =>
        rw [spaced c head]
        exact ruleSpaced (by simp) rule
    obtain ⟨asked, more⟩ := ruleYields going gap first split follows
    obtain ⟨tokens, u, lead, kinds, mode, rest⟩ := ih others (yieldsGoing asked more) rfl blank rfl
    exact ⟨_ :: tokens, u, .cons asked more lead, by rw [List.map_cons, kinds], mode, rest⟩

end Session

theorem spellingsReadBack (kinds : List Kind) (spellable : ∀ k ∈ kinds, k.Spellable) :
    (∃ tokens, tokenize (spelled kinds) .basic = .ok tokens ∧
      tokens.map Token.kind = kinds ++ [.eof]) ∧
      (Session.start (spelled kinds) .basic).exhaust.mode = .basic := by
  have whole : (Session.start (spelled kinds) .basic).rest =
      [] ++ [' '].intercalate (kinds.map Kind.spelling) := String.toList_ofList
  obtain ⟨tokens, u, lead, same, mode, gap⟩ :=
    Session.spelledLead (s := .start _ _) spellable rfl rfl (by simp) whole
  obtain ⟨ok, exhausted⟩ := Session.leadEof lead rfl rfl gap
  refine ⟨⟨_, ok, ?_⟩, exhausted.trans mode⟩
  rw [List.map_append, same]
  rfl

theorem hardWordSpelled :
    let kinds : List Kind := [.word "\\# Ⅻ7\né\\", .number 9223372036854775807, .symbol '.', .word "a"]
    (∀ k ∈ kinds, k.Spellable) ∧
      spelled kinds = "\\\\\\#\\ \\Ⅻ\\7\\\né\\\\ 9223372036854775807 . a" ∧
      (∃ tokens, tokenize (spelled kinds) .basic = .ok tokens ∧
        tokens.map Token.kind = kinds ++ [.eof]) ∧
      (Session.start (spelled kinds) .basic).exhaust.mode = .basic := by
  intro kinds
  have spellable : ∀ k ∈ kinds, k.Spellable := by decide +kernel
  exact ⟨spellable, by decide +kernel, spellingsReadBack kinds spellable⟩

end ModalLexer
