import ModalLexer.Unicode.Ranges

/-! Blanks: the characters with the Unicode property White_Space. -/
namespace ModalLexer.Unicode

def blanks : Ranges :=
  [(0x9, 0xD), (0x20, 0x20), (0x85, 0x85), (0xA0, 0xA0), (0x1680, 0x1680), (0x2000, 0x200A),
    (0x2028, 0x2029), (0x202F, 0x202F), (0x205F, 0x205F), (0x3000, 0x3000)]

theorem blanksAscend : Ranges.ascendFrom 0 blanks = true := by decide

def isBlank (c : Char) : Bool := blanks.contains c.toNat

end ModalLexer.Unicode
