import Junctor.Text.Ranges

/-!
# Blank Characters

The characters that separate words and are otherwise ignored: those of category Zs and those of
the bidirectional classes WS, B and S. The zero width space U+200B and the mark U+FEFF are not
blank.

## Main results

* `isBlank`: the property of a character.
* `isBlankText`: a text of blank characters only, the empty text included.
-/

namespace Junctor.Text

/-- The code points of the blank characters, in increasing order. -/
def blankRanges : List (Nat × Nat) := [
  (0x9, 0xD), (0x1C, 0x20), (0x85, 0x85), (0xA0, 0xA0), (0x1680, 0x1680), (0x2000, 0x200A),
  (0x2028, 0x2029), (0x202F, 0x202F), (0x205F, 0x205F), (0x3000, 0x3000)]

/-- Is `c` **blank**, that is, white space or a separator? -/
def isBlank (c : Char) : Bool := inRanges blankRanges c.toNat

/-- Is every character of `s` blank? The empty text has no character and is blank. -/
def isBlankText (s : String) : Bool := s.toList.all isBlank

end Junctor.Text
