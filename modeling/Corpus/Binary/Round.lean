import Corpus.Binary.Basic

/-!
# Rounding to a binary format

`Binary.nearest` rounds an exact magnitude to the nearest number of a format; a tie goes to the
even significand, and a magnitude whose rounding exceeds every number of the format has none.
-/

namespace Corpus

/-- The whole number nearest to a magnitude, where a half goes to the even neighbour. -/
def roundHalfEven (magnitude : Rat) : Nat :=
  let below := magnitude.floor.toNat
  let rest := magnitude - below
  if rest < 1 / 2 then below
  else if 1 / 2 < rest then below + 1
  else if below % 2 = 0 then below
  else below + 1

namespace Binary

/-- The exponent at which a positive magnitude has a significand of `precision` bits, or the
least exponent of the format if that is larger. -/
def scaleOf (format : BinaryFormat) (magnitude : Rat) : Int :=
  if magnitude = 0 then format.minExponent else
  let estimate : Int := (magnitude.num.toNat.log2 : Int) - (magnitude.den.log2 : Int)
    - (format.precision : Int)
  let scale :=
    if magnitude / (2 : Rat) ^ estimate < (2 : Rat) ^ (format.precision : Int) then estimate
    else estimate + 1
  max scale format.minExponent

/-- The number nearest to a magnitude, with the given sign; `none` is an overflow. -/
def nearest (format : BinaryFormat) (negative : Bool) (magnitude : Rat) :
    Option (Binary format) :=
  let scale := scaleOf format magnitude
  let significand := roundHalfEven (magnitude / (2 : Rat) ^ scale)
  if significand = Nat.pow 2 format.precision then
    ofParts? negative (Nat.pow 2 (format.precision - 1)) (scale + 1)
  else
    ofParts? negative significand scale

def convert (format : BinaryFormat) {source : BinaryFormat} (number : Binary source) :
    Option (Binary format) :=
  nearest format number.negative number.magnitude

def ofInt? (format : BinaryFormat) (whole : Int) : Option (Binary format) :=
  nearest format (decide (whole < 0)) (whole.natAbs : Rat)

end Binary

end Corpus
