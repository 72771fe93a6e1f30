import Corpus.Decimal.Shortest

/-!
# Decimal text

A layout says which decimal exponents are written positionally; the others are written with one
digit before the point and an exponent.
-/

namespace Corpus

/-- Decimal exponents between `least` and `greatest` are written positionally. -/
structure Decimal.Layout where
  least : Int
  greatest : Int

namespace Decimal

/-- Positional text, always with a point and a digit on both sides of it. -/
def positional (decimal : Decimal) : List Char :=
  let chars := digitChars decimal.digits
  if 0 ≤ decimal.exponent then
    chars ++ List.replicate decimal.exponent.toNat '0' ++ ['.', '0']
  else
    let places := (-decimal.exponent).toNat
    let padded := List.replicate (places + 1 - chars.length) '0' ++ chars
    padded.take (padded.length - places) ++ '.' :: padded.drop (padded.length - places)

/-- Scientific text: one digit, the others behind a point, and a signed exponent. -/
def scientific (decimal : Decimal) : List Char :=
  let chars := digitChars decimal.digits
  let power := decimal.exponent + (chars.length : Int) - 1
  let sign := if power < 0 then '-' else '+'
  let mantissa :=
    match chars with
    | first :: second :: others => first :: '.' :: second :: others
    | short => short
  mantissa ++ 'e' :: sign :: digitChars power.natAbs

def Layout.write (layout : Layout) (decimal : Decimal) : List Char :=
  let power := decimal.exponent + ((digitChars decimal.digits).length : Int) - 1
  if layout.least ≤ power && power ≤ layout.greatest then decimal.positional
  else decimal.scientific

/-- The text of a finite binary number: a minus sign where it is negative, then its shortest
decimal. -/
def Layout.writeBinary (layout : Layout) {format : BinaryFormat} (number : Binary format) :
    List Char :=
  let body := layout.write (shortest number)
  if number.negative then '-' :: body else body

end Decimal

end Corpus
