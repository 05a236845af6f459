/-! Whole numbers of 64 bits with a sign, read digit by digit. Each product and each sum on the way
has to fit; no number is ever cut down to the bits there is room for. -/
namespace ModalLexer.Text.Integer

def least : Int := -0x8000000000000000

def greatest : Int := 0x7FFFFFFFFFFFFFFF

def checked (value : Int) : Option Int :=
  if least ≤ value ∧ value ≤ greatest then some value else none

def digit? (c : Char) : Option Int :=
  if c.isDigit then some (Int.ofNat (c.toNat - '0'.toNat)) else none

def push (value : Int) (c : Char) : Option Int := do
  let tens ← checked (value * 10)
  let digit ← digit? c
  checked (tens + digit)

def ofDigits? (digits : List Char) : Option Int :=
  if digits = [] then none else digits.foldlM push 0

end ModalLexer.Text.Integer
