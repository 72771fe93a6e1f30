import Corpus.Binary.Round

/-!
# Decimal numbers

A decimal is a whole number of units of a power of ten, as it is written in a text.  Reading it in
a binary format rounds its exact value.
-/

namespace Corpus

/-- A magnitude written in decimal: `digits` units of ten to the power `exponent`. -/
structure Decimal where
  digits : Nat
  exponent : Int
  deriving DecidableEq

namespace Decimal

/-- The exact value. -/
def value (decimal : Decimal) : Rat :=
  decimal.digits * (10 : Rat) ^ decimal.exponent

/-- No format of at most 64 bits reaches ten to this power, nor its inverse. -/
def exponentBound : Int := 400

/-- The nearest number of a format; `none` is an overflow.  Exponents far outside the format are
settled without computing the power. -/
def toBinary (format : BinaryFormat) (negative : Bool) (decimal : Decimal) :
    Option (Binary format) :=
  if decimal.digits = 0 then
    Binary.nearest format negative 0
  else if exponentBound < decimal.exponent then
    none
  else if decimal.exponent < -(exponentBound + (decimal.digits.log2 : Int)) then
    Binary.nearest format negative 0
  else
    Binary.nearest format negative decimal.value

/-- The decimal digits of a whole number, most significant first. -/
def digitChars (whole : Nat) : List Char :=
  Nat.toDigits 10 whole

/-- The whole number that a run of decimal digits stands for. -/
def ofDigitChars (chars : List Char) : Nat :=
  chars.foldl (fun whole char => whole * 10 + (char.toNat - '0'.toNat)) 0

/-- The same value with the fewest digits: trailing zeros move into the exponent. -/
def trim (decimal : Decimal) : Decimal :=
  let zeros := ((digitChars decimal.digits).reverse.takeWhile (· == '0')).length
  if decimal.digits = 0 then ⟨0, 0⟩
  else ⟨decimal.digits / Nat.pow 10 zeros, decimal.exponent + zeros⟩

end Decimal

end Corpus
