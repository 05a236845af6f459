import ModalLexer.Unicode.Letter

/-! Glyphs, the units of a basic word: a letter stands for itself, and any other character has a
backslash before it. A word is read by taking glyphs for as long as there are any. -/
namespace ModalLexer

def escapeMark : Char := '\\'

inductive Glyph where
  | letter (char : Char)
  | escaped (char : Char)
  deriving DecidableEq, Repr

namespace Glyph

open Unicode (isLetter)

def char : Glyph → Char
  | letter c | escaped c => c

def spelling : Glyph → List Char
  | letter c => [c]
  | escaped c => [escapeMark, c]

def Proper : Glyph → Prop
  | letter c => isLetter c = true
  | escaped c => isLetter c = false

instance : DecidablePred Proper
  | letter c => inferInstanceAs (Decidable (isLetter c = true))
  | escaped c => inferInstanceAs (Decidable (isLetter c = false))

def ofChar (c : Char) : Glyph := if isLetter c then letter c else escaped c

def takeOnto (taken : List Glyph) : List Char → List Glyph × List Char
  | [] => (taken.reverse, [])
  | c :: rest =>
    if c = escapeMark then
      match rest with
      | [] => (taken.reverse, [c])
      | e :: after =>
        if isLetter e then (taken.reverse, c :: e :: after)
        else takeOnto (escaped e :: taken) after
    else if isLetter c then takeOnto (letter c :: taken) rest
    else (taken.reverse, c :: rest)

def takeAll (text : List Char) : List Glyph × List Char := takeOnto [] text

def lexeme (glyphs : List Glyph) : List Char := glyphs.flatMap spelling

@[simp] theorem lexemeAppend (left right : List Glyph) :
    lexeme (left ++ right) = lexeme left ++ lexeme right := by simp [lexeme]

@[simp] theorem lexemeSingle (g : Glyph) : lexeme [g] = g.spelling := by simp [lexeme]

theorem takeOntoLexeme (taken : List Glyph) (text : List Char) :
    lexeme (takeOnto taken text).1 ++ (takeOnto taken text).2 = lexeme taken.reverse ++ text := by
  fun_induction takeOnto taken text with
  | case1 | case2 | case3 | case6 => rfl
  | case4 _ _ _ _ ih => simp [ih, spelling]
  | case5 _ _ _ _ _ ih => simp [ih, spelling]

theorem takeAllLexeme (text : List Char) :
    lexeme (takeAll text).1 ++ (takeAll text).2 = text := takeOntoLexeme [] text

theorem takeOntoLength (taken : List Glyph) (text : List Char) :
    taken.length ≤ (takeOnto taken text).1.length := by
  fun_induction takeOnto taken text with
  | case1 | case2 | case3 | case6 => simp
  | case4 _ _ _ _ ih => exact Nat.le_of_succ_le ih
  | case5 _ _ _ _ _ ih => exact Nat.le_of_succ_le ih

theorem lexemeEmpty {glyphs : List Glyph} (empty : lexeme glyphs = []) : glyphs = [] := by
  cases glyphs with
  | nil => rfl
  | cons g rest => cases g <;> simp [lexeme, spelling] at empty

end Glyph
end ModalLexer
