import Corpus.Binary.Round

/-!
# The words of single numbers

A number of 32 bits is a word: a sign bit, eight bits of exponent and 23 bits of significand.  The
greatest exponent is kept for the infinities and for what is not a number.
-/

namespace Corpus

namespace Single

def toWord (number : Single) : UInt32 :=
  let sign := if number.negative then 0x80000000 else 0
  if number.significand < 0x800000 then UInt32.ofNat (sign + number.significand)
  else
    UInt32.ofNat (sign + (number.exponent + 150).toNat * 0x800000 + (number.significand - 0x800000))

/-- The number of a word; infinities and what is not a number have none. -/
def ofWord? (word : UInt32) : Option Single :=
  let negative := decide (0x80000000 ≤ word.toNat)
  let field : Nat := word.toNat / 0x800000 % 256
  let rest : Nat := word.toNat % 0x800000
  if field = 255 then none
  else if field = 0 then Binary.ofParts? negative rest (-149)
  else Binary.ofParts? negative (0x800000 + rest) ((field : Int) - 150)

end Single

end Corpus
