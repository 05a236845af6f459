import ModalLexer.Text.Json.Grammar

/-! A reader of JSON documents. Every part of it takes what it reads off the front of a text. -/
namespace ModalLexer.Text.Json

abbrev Reader (α : Type) := List Char → Option (α × List Char)

def skip (text : List Char) : List Char := text.dropWhile isSpace

def keyword? (word : List Char) (v : Value) : Reader Value := fun text =>
  if text.take word.length = word then some (v, text.drop word.length) else none

def unit? : Reader Nat := fun text =>
  if (text.take 4).length = 4 then (hexValue? (text.take 4)).map (·, text.drop 4) else none

def lowHalf? (high : Nat) : Reader Char
  | '\\' :: 'u' :: text => do
    let (low, rest) ← unit? text
    if 0xDC00 ≤ low ∧ low < 0xE000 then
      some (Char.ofNat (0x10000 + (high - 0xD800) * 0x400 + (low - 0xDC00)), rest)
    else none
  | _ => none

def char? : Reader Char
  | '\\' :: 'u' :: text => do
    let (n, rest) ← unit? text
    if n.isValidChar then some (Char.ofNat n, rest)
    else if n < 0xDC00 then lowHalf? n rest
    else none
  | '\\' :: sign :: rest => ((shorts.map Prod.swap).lookup sign).map (·, rest)
  | c :: rest => if 0x20 ≤ c.toNat ∧ c ≠ '"' ∧ c ≠ '\\' then some (c, rest) else none
  | [] => none

/-- The characters up to the closing quote; `bound` is more than there can be. -/
def chars? : Nat → Reader (List Char)
  | 0, _ => none
  | bound + 1, text =>
    if text.head? = some '"' then some ([], text.tail)
    else do
      let (c, rest) ← char? text
      let (more, last) ← chars? bound rest
      some (c :: more, last)

def string? : Reader String
  | '"' :: text => (chars? (text.length + 1) text).map fun (inside, rest) =>
      (String.ofList inside, rest)
  | _ => none

def digits? : Reader (List Char) := fun text =>
  if text.takeWhile Char.isDigit = [] then none
  else some (text.takeWhile Char.isDigit, text.dropWhile Char.isDigit)

def takeSign (signs : List Char) : List Char → List Char × List Char
  | c :: rest => if c ∈ signs then ([c], rest) else ([], c :: rest)
  | [] => ([], [])

def fraction? : Reader (List Char)
  | '.' :: rest => digits? rest
  | text => some ([], text)

def power? : Reader (Option Power)
  | c :: rest =>
    if c = 'e' ∨ c = 'E' then do
      let (digits, last) ← digits? (takeSign ['+', '-'] rest).2
      some (some ⟨c, (takeSign ['+', '-'] rest).1, digits⟩, last)
    else some (none, c :: rest)
  | [] => some (none, [])

def numeral? : Reader Numeral := fun text => do
  let (whole, afterWhole) ← digits? (takeSign ['-'] text).2
  let (fraction, afterFraction) ← fraction? afterWhole
  let (power, rest) ← power? afterFraction
  if whole.head? = some '0' ∧ whole ≠ ['0'] then none
  else some (⟨(takeSign ['-'] text).1, whole, fraction, power⟩, rest)

def sequence? {α : Type} (item? : Reader α) (close : Char) : Nat → Reader (List α)
  | 0, _ => none
  | bound + 1, text => do
    let (entry, rest) ← item? text
    match rest with
    | [] => none
    | c :: after =>
      if c = close then some ([entry], after)
      else if c = ',' then (sequence? item? close bound after).map fun (more, last) =>
        (entry :: more, last)
      else none

def bracketed? {α : Type} (item? : Reader α) (close : Char) : Reader (List α) := fun text =>
  if (skip text).head? = some close then some ([], (skip text).tail)
  else sequence? item? close (text.length + 1) text

def element? (value? : Reader Value) : Reader Value := fun text => do
  let (v, rest) ← value? (skip text)
  some (v, skip rest)

def member? (value? : Reader Value) : Reader (String × Value) := fun text => do
  let (name, rest) ← string? (skip text)
  match skip rest with
  | ':' :: after => (element? value? after).map fun (v, last) => ((name, v), last)
  | _ => none

def value? : Nat → Reader Value
  | 0, _ => none
  | depth + 1, text =>
    match text with
    | [] => none
    | c :: rest =>
      if c = '"' then (string? text).map fun (inside, last) => (.string inside, last)
      else if c = '[' then (bracketed? (element? (value? depth)) ']' rest).map fun (items, last) =>
        (.array items, last)
      else if c = '\x7b' then
        (bracketed? (member? (value? depth)) '\x7d' rest).map fun (list, last) => (.object list, last)
      else if c = 'n' then keyword? "null".toList .null text
      else if c = 't' then keyword? "true".toList (.bool true) text
      else if c = 'f' then keyword? "false".toList (.bool false) text
      else (numeral? text).map fun (n, last) => (n.value, last)

/-- The value of a document. Every bracket is a character, so none stand as deep as it is long. -/
def document? (text : List Char) : Option Value :=
  match element? (value? (text.length + 1)) text with
  | some (v, []) => some v
  | _ => none

end ModalLexer.Text.Json
