import Corpus.Decimal.Basic

/-!
# The shortest decimal that reads back

Among the decimals that a binary format reads as a given number, `Decimal.shortest` takes one with
the fewest digits, and of those the nearest to the number; a tie goes to the even last digit.
For each count of digits only the two neighbours of the number on that decimal grid are tried:
a decimal of the grid inside the number's rounding interval has one of them between it and the
number.
-/

namespace Corpus

namespace Decimal

/-- The power of ten just above a positive magnitude: the count of digits before the point,
negative when zeros follow the point. -/
def pointPosition (magnitude : Rat) : Int :=
  if 1 ≤ magnitude then
    ((digitChars magnitude.floor.toNat).length : Int)
  else
    1 - ((digitChars (magnitude⁻¹.ceil.toNat - 1)).length : Int)

/-- The two neighbours of a magnitude on the grid of a given decimal unit. -/
def neighbours (magnitude : Rat) (unit : Int) : Decimal × Decimal :=
  let below := (magnitude / (10 : Rat) ^ unit).floor.toNat
  (⟨below, unit⟩, ⟨below + 1, unit⟩)

/-- A decimal reads back as a number when the number's format rounds it to that number. -/
def readsBack {format : BinaryFormat} (number : Binary format) (decimal : Decimal) : Bool :=
  decimal.toBinary format number.negative == some number

/-- The better neighbour that reads back: the nearer one, or the even one of a tie. -/
def readable {format : BinaryFormat} (number : Binary format) (unit : Int) : Option Decimal :=
  let (below, above) := neighbours number.magnitude unit
  match readsBack number below, readsBack number above with
  | false, false => none
  | true, false => some below
  | false, true => some above
  | true, true =>
    let toBelow := number.magnitude - below.value
    let toAbove := above.value - number.magnitude
    if toBelow < toAbove then some below
    else if toAbove < toBelow then some above
    else if below.digits % 2 = 0 then some below
    else some above

def exact {format : BinaryFormat} (number : Binary format) : Decimal :=
  if 0 ≤ number.exponent then
    ⟨number.significand * Nat.pow 2 number.exponent.toNat, 0⟩
  else
    ⟨number.significand * Nat.pow 5 (-number.exponent).toNat, number.exponent⟩

/-- The shortest decimal that reads back, without trailing zeros.  Seventeen digits are enough for
every format of at most 64 bits. -/
def shortest {format : BinaryFormat} (number : Binary format) : Decimal :=
  if number.isZero then ⟨0, 0⟩ else
  let point := pointPosition number.magnitude
  let found := (List.range 17).findSome? fun (fewer : Nat) =>
    readable number (point - (fewer : Int) - 1)
  trim (found.getD (exact number))

end Decimal

end Corpus
