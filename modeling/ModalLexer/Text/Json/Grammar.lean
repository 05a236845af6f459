import ModalLexer.Text.Hex
import ModalLexer.Text.Json

/-! The grammar of JSON documents and the values they name. A number names a decimal fraction and a
string a text, so half a surrogate pair on its own names nothing. -/
namespace ModalLexer.Text.Json

inductive Value where
  | null
  | bool (value : Bool)
  | number (mantissa exponent : Int)
  | string (text : String)
  | array (items : List Value)
  | object (members : List (String × Value))

def isSpace (c : Char) : Bool := c == ' ' || c == '\t' || c == '\n' || c == '\r'

def Spaces (gap : List Char) : Prop := ∀ c ∈ gap, isSpace c = true

instance (gap : List Char) : Decidable (Spaces gap) := List.decidableBAll _ gap

def shorts : List (Char × Char) := ('/', '/') :: named

inductive Spelled : Char → List Char → Prop where
  | plain {c} (above : 0x20 ≤ c.toNat) (unquoted : c ≠ '"') (unescaped : c ≠ '\\') : Spelled c [c]
  | short {c sign} (member : (c, sign) ∈ shorts) : Spelled c ['\\', sign]
  | unit {digits n} (four : digits.length = 4) (value : hexValue? digits = some n)
      (scalar : n.isValidChar) : Spelled (Char.ofNat n) ('\\' :: 'u' :: digits)
  | pair {high low h l} (four : high.length = 4) (more : low.length = 4)
      (first : hexValue? high = some (0xD800 + h)) (small : h < 0x400)
      (second : hexValue? low = some (0xDC00 + l)) (little : l < 0x400) :
      Spelled (Char.ofNat (0x10000 + h * 0x400 + l))
        ('\\' :: 'u' :: (high ++ '\\' :: 'u' :: low))

inductive Spellings : List Char → List Char → Prop where
  | nil : Spellings [] []
  | cons {c spelling text more} (first : Spelled c spelling) (rest : Spellings text more) :
      Spellings (c :: text) (spelling ++ more)

inductive Quotation : String → List Char → Prop where
  | quoted {text spelled} (inside : Spellings text spelled) :
      Quotation (String.ofList text) ('"' :: (spelled ++ ['"']))

structure Power where
  letter : Char
  sign : List Char
  digits : List Char

structure Numeral where
  sign : List Char
  whole : List Char
  fraction : List Char
  power : Option Power

namespace Power

def text (p : Power) : List Char := p.letter :: (p.sign ++ p.digits)

def value (p : Power) : Int :=
  if p.sign = ['-'] then - Int.ofNat (Nat.ofDigitChars 10 p.digits 0)
  else Int.ofNat (Nat.ofDigitChars 10 p.digits 0)

end Power

def Digits (text : List Char) : Prop := text ≠ [] ∧ ∀ c ∈ text, c.isDigit = true

structure Power.Proper (p : Power) : Prop where
  letter : p.letter = 'e' ∨ p.letter = 'E'
  sign : p.sign = [] ∨ ∃ c ∈ ['+', '-'], p.sign = [c]
  digits : Digits p.digits

namespace Numeral

def fractionText (digits : List Char) : List Char := if digits = [] then [] else '.' :: digits

def powerText (power : Option Power) : List Char := (power.map Power.text).getD []

def text (n : Numeral) : List Char :=
  n.sign ++ (n.whole ++ (fractionText n.fraction ++ powerText n.power))

def value (n : Numeral) : Value :=
  let size := Int.ofNat (Nat.ofDigitChars 10 (n.whole ++ n.fraction) 0)
  .number (if n.sign = ['-'] then -size else size)
    ((n.power.map Power.value).getD 0 - n.fraction.length)

structure Proper (n : Numeral) : Prop where
  sign : n.sign = [] ∨ ∃ c ∈ ['-'], n.sign = [c]
  whole : Digits n.whole
  leading : n.whole.head? = some '0' → n.whole = ['0']
  fraction : ∀ c ∈ n.fraction, c.isDigit = true
  power : ∀ p ∈ n.power, p.Proper

end Numeral

inductive Node where
  | value (v : Value)
  | element (v : Value)
  | member (name : String) (v : Value)
  | elements (items : List Value)
  | members (list : List (String × Value))

inductive Derives : Node → List Char → Prop where
  | null : Derives (.value .null) "null".toList
  | bool (b : Bool) : Derives (.value (.bool b)) (toString b).toList
  | number {n : Numeral} (proper : n.Proper) : Derives (.value n.value) n.text
  | string {text spelled} (quotation : Quotation text spelled) :
      Derives (.value (.string text)) spelled
  | emptyArray {gap} (spaces : Spaces gap) : Derives (.value (.array [])) ('[' :: (gap ++ [']']))
  | array {items text} (inside : Derives (.elements items) text) :
      Derives (.value (.array items)) ('[' :: (text ++ [']']))
  | emptyObject {gap} (spaces : Spaces gap) :
      Derives (.value (.object [])) ('\x7b' :: (gap ++ ['\x7d']))
  | object {list text} (inside : Derives (.members list) text) :
      Derives (.value (.object list)) ('\x7b' :: (text ++ ['\x7d']))
  | element {v before text after} (front : Spaces before) (inside : Derives (.value v) text)
      (back : Spaces after) : Derives (.element v) (before ++ (text ++ after))
  | member {name v before spelled after text} (front : Spaces before)
      (quotation : Quotation name spelled) (back : Spaces after) (inside : Derives (.element v) text) :
      Derives (.member name v) (before ++ (spelled ++ (after ++ ':' :: text)))
  | lastElement {v text} (item : Derives (.element v) text) : Derives (.elements [v]) text
  | moreElements {v text items more} (item : Derives (.element v) text)
      (rest : Derives (.elements items) more) : Derives (.elements (v :: items)) (text ++ ',' :: more)
  | lastMember {name v text} (item : Derives (.member name v) text) :
      Derives (.members [(name, v)]) text
  | moreMembers {name v text list more} (item : Derives (.member name v) text)
      (rest : Derives (.members list) more) :
      Derives (.members ((name, v) :: list)) (text ++ ',' :: more)

def Document (text : List Char) (v : Value) : Prop := Derives (.element v) text

end ModalLexer.Text.Json
