import ModalLexer.Session
import ModalLexer.Text.Slice

/-! Cursors: sessions that know their place by its byte alone. What a cursor looks at it cuts from its
source, and where a cut is out of bounds it has no answer. -/
namespace ModalLexer

open Unicode (isLetter isBlank)

def isNumeralByte (b : UInt8) : Bool := (0x30 ≤ b && b ≤ 0x39) || b == 0x2E

def markByte : UInt8 := 0x23

def endsRun (b : UInt8) : Bool := b == 0x20 || b == markByte

structure Cursor where
  source : String
  pos : Nat
  mode : Mode
  current : Option Token
  finished : Bool
  deriving Repr

namespace Cursor

def ended (c : Cursor) : Bool := c.current.any Token.isEof

def peek? (c : Cursor) : Option (Option Char) :=
  (Text.slice? c.source c.pos c.source.utf8ByteSize).map fun text => text.toList.head?

def bump (c : Cursor) (char : Char) : Cursor := { c with pos := c.pos + char.utf8Size }

def left (c : Cursor) : Nat := c.source.utf8ByteSize - c.pos

theorem bumpLeft (c : Cursor) (char : Char) : (c.bump char).left ≤ c.left := by
  simp only [left, bump]
  omega

theorem peekLeft {c : Cursor} {char : Char} (ahead : c.peek? = some (some char)) :
    (c.bump char).left < c.left := by
  obtain ⟨text, cut, head⟩ := Option.map_eq_some_iff.mp ahead
  have size := Text.sliceSize cut
  have positive := char.utf8Size_pos
  have filled : text.utf8ByteSize ≠ 0 := by
    intro none
    rw [String.utf8ByteSize_eq_zero_iff.mp none] at head
    contradiction
  simp only [left, bump]
  omega

def skipBlanks? (c : Cursor) : Option Cursor :=
  match _ahead : c.peek? with
  | none => none
  | some none => some c
  | some (some char) => if isBlank char then skipBlanks? (c.bump char) else some c
termination_by c.left
decreasing_by exact peekLeft _ahead

theorem skipBlanksUnfold (c : Cursor) :
    c.skipBlanks? =
      match c.peek? with
      | none => none
      | some none => some c
      | some (some char) => if isBlank char then (c.bump char).skipBlanks? else some c := by
  rw [skipBlanks?]
  split <;> simp [*]

def wordOnto? (first : Nat) (taken : List Char) (c : Cursor) :
    Option (Except Fault Token × Cursor) :=
  match _ahead : c.peek? with
  | none => none
  | some none => some (.ok ⟨.word (String.ofList taken.reverse), .between first c.pos⟩, c)
  | some (some char) =>
    if char = escapeMark then
      let slash := c.bump char
      match slash.peek? with
      | none => none
      | some none =>
        some (.error (.danglingEscape (.between c.pos slash.pos) (.word (clampOffset first))), slash)
      | some (some escaped) =>
        let after := slash.bump escaped
        if isLetter escaped then
          some (.error (.escapedLetter (.between c.pos after.pos) escaped (clampOffset first)), after)
        else wordOnto? first (escaped :: taken) after
    else if isLetter char then wordOnto? first (char :: taken) (c.bump char)
    else some (.ok ⟨.word (String.ofList taken.reverse), .between first c.pos⟩, c)
termination_by c.left
decreasing_by
  · exact Nat.lt_of_le_of_lt (bumpLeft _ _) (peekLeft _ahead)
  · exact peekLeft _ahead

theorem wordOntoUnfold (first : Nat) (taken : List Char) (c : Cursor) :
    wordOnto? first taken c =
      match c.peek? with
      | none => none
      | some none => some (.ok ⟨.word (String.ofList taken.reverse), .between first c.pos⟩, c)
      | some (some char) =>
        if char = escapeMark then
          let slash := c.bump char
          match slash.peek? with
          | none => none
          | some none =>
            some (.error (.danglingEscape (.between c.pos slash.pos) (.word (clampOffset first))),
              slash)
          | some (some escaped) =>
            let after := slash.bump escaped
            if isLetter escaped then
              some (.error (.escapedLetter (.between c.pos after.pos) escaped (clampOffset first)),
                after)
            else wordOnto? first (escaped :: taken) after
        else if isLetter char then wordOnto? first (char :: taken) (c.bump char)
        else some (.ok ⟨.word (String.ofList taken.reverse), .between first c.pos⟩, c) := by
  rw [wordOnto?]
  split <;> simp [*]

def number? (c : Cursor) : Option (Except Fault Token × Cursor) := do
  let ahead ← Text.bytesFrom? c.source c.pos
  let stop := c.pos + (ahead.takeWhile isNumeralByte).length
  let digits ← Text.slice? c.source c.pos stop
  let span := Span.between c.pos stop
  match numberOf? digits.toList with
  | some value => some (.ok ⟨.number value, span⟩, { c with pos := stop })
  | none => some (.error (.numberOverflow span digits), { c with pos := stop })

def run? (c : Cursor) : Option (Except Fault Token × Cursor) := do
  let ahead ← Text.bytesFrom? c.source c.pos
  let stop := c.pos + ahead.findIdx endsRun
  let text ← Text.slice? c.source c.pos stop
  let mode := if (Text.bytes c.source)[stop]? = some markByte then .basic else c.mode
  some (.ok ⟨.word text, .between c.pos stop⟩, { c with pos := stop, mode := mode })

def symbol (c : Cursor) (char : Char) : Except Fault Token × Cursor :=
  let after := c.bump char
  (.ok ⟨.symbol char, .between c.pos after.pos⟩,
    if char = switchMark then { after with mode := c.mode.flipped } else after)

def basic? (c : Cursor) (char : Char) : Option (Except Fault Token × Cursor) :=
  if char = escapeMark ∧ c.pos + escapeMark.utf8Size = c.source.utf8ByteSize then
    some (.error (.danglingEscape (.between c.pos c.source.utf8ByteSize) .topLevel), c)
  else if isLetter char || char == escapeMark then wordOnto? c.pos [] c
  else if char.isDigit then number? c
  else some (c.symbol char)

def read? (c : Cursor) : Option (Except Fault Token × Cursor) := do
  match ← c.peek? with
  | none => some (.ok ⟨.eof, .point (clampOffset c.pos)⟩, c)
  | some char => if c.mode = .extended ∧ char ≠ switchMark then c.run? else c.basic? char

def next? (c : Cursor) : Option (Except Fault Token × Cursor) :=
  if c.ended then some (.error (.exhausted (.point (clampOffset c.pos))), c)
  else do
    let (result, after) ← (← c.skipBlanks?).read?
    match result with
    | .ok token => some (.ok token, { after with current := some token })
    | .error fault => some (.error fault, after)

def pull? (c : Cursor) : Option (Option (Except Fault Token) × Cursor) :=
  if c.finished then some (none, c)
  else do
    let (result, after) ← c.next?
    some (some result, { after with finished := Session.isLast result })

def setMode (c : Cursor) : Option Mode → Except Fault Unit × Cursor
  | none => (.error (.missingMode (clampOffset c.pos)), c)
  | some mode => (.ok (), { c with mode := mode })

end Cursor

def Session.cursor (s : Session) : Cursor := ⟨s.source, s.pos, s.mode, s.current, s.finished⟩

end ModalLexer
