import Typewright.Text.Ranges

/-!
White space, in the sense in which an indent has to be blank: the ASCII blanks, the information separators, and the
separators beyond ASCII. It is wider than what a lexer or a JSON reader skips, which have their own.
-/

namespace Typewright.Text

/-- White space: the ASCII blanks, the information separators U+001C to U+001F, U+0085, U+00A0 and the separators of
    higher planes. -/
def blankRanges : List (Nat × Nat) :=
  [(0x9, 0xd), (0x1c, 0x20), (0x85, 0x85), (0xa0, 0xa0), (0x1680, 0x1680), (0x2000, 0x200a), (0x2028, 0x2029),
   (0x202f, 0x202f), (0x205f, 0x205f), (0x3000, 0x3000)]

def isBlank (c : Char) : Bool := inRanges blankRanges c.toNat

def allBlank (s : String) : Bool := s.toList.all isBlank

end Typewright.Text
