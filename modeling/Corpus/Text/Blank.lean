import Corpus.Text.Ranges

/-!
# Blank text

The characters of the property White_Space, and the texts that hold nothing else.
-/

namespace Corpus

namespace Text

/-- The characters of the property White_Space. -/
def spaceRanges : CharRanges :=
  [(0x9, 0xD), (0x20, 0x20), (0x85, 0x85), (0xA0, 0xA0), (0x1680, 0x1680), (0x2000, 0x200A),
    (0x2028, 0x2029), (0x202F, 0x202F), (0x205F, 0x205F), (0x3000, 0x3000)]

def isSpace (char : Char) : Bool :=
  spaceRanges.covers char.toNat

/-- A text is blank when white space is all it holds. -/
def isBlank (text : String) : Bool :=
  text.toList.all isSpace

end Text

end Corpus
