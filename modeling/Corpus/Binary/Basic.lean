/-!
# Finite binary floating-point numbers

A finite number of a binary format is a sign, a significand and a power of two.  The scaling is
canonical, so two numbers are equal exactly when all three parts are, and the two zeros are the
only distinct numbers of one value.  Numbers are compared by `Binary.value`, an exact rational.
-/

namespace Corpus

/-- A binary format: significands of `precision` bits, scaled by powers of two between
`minExponent` and `maxExponent`. -/
structure BinaryFormat where
  precision : Nat
  minExponent : Int
  maxExponent : Int

def BinaryFormat.double : BinaryFormat := ⟨53, -1074, 971⟩

def BinaryFormat.single : BinaryFormat := ⟨24, -149, 104⟩

/-- A significand and an exponent are canonical when both fit the format and no larger
significand with a smaller exponent stands for the same value. -/
def BinaryFormat.Canonical (format : BinaryFormat) (significand : Nat) (exponent : Int) : Prop :=
  significand < Nat.pow 2 format.precision ∧
    format.minExponent ≤ exponent ∧ exponent ≤ format.maxExponent ∧
    (Nat.pow 2 (format.precision - 1) ≤ significand ∨ exponent = format.minExponent)

instance (format : BinaryFormat) (significand : Nat) (exponent : Int) :
    Decidable (format.Canonical significand exponent) :=
  inferInstanceAs (Decidable (_ ∧ _ ∧ _ ∧ _))

/-- A finite number of a binary format. -/
structure Binary (format : BinaryFormat) where
  negative : Bool
  significand : Nat
  exponent : Int
  canonical : format.Canonical significand exponent
  deriving DecidableEq

abbrev Double : Type := Binary .double

abbrev Single : Type := Binary .single

namespace Binary

variable {format : BinaryFormat}

/-- The number with the given parts, when they are canonical. -/
def ofParts? (negative : Bool) (significand : Nat) (exponent : Int) : Option (Binary format) :=
  if canonical : format.Canonical significand exponent then
    some ⟨negative, significand, exponent, canonical⟩
  else
    none

/-- The value without its sign. -/
def magnitude (number : Binary format) : Rat :=
  number.significand * (2 : Rat) ^ number.exponent

/-- The exact value. -/
def value (number : Binary format) : Rat :=
  if number.negative then -number.magnitude else number.magnitude

/-- Both zeros are zero. -/
def isZero (number : Binary format) : Bool :=
  number.significand == 0

/-- Numbers are alike when their values are equal, so the two zeros are alike. -/
def alike (left right : Binary format) : Bool :=
  if left.isZero && right.isZero then true
  else left.negative == right.negative && left.significand == right.significand &&
    left.exponent == right.exponent

/-- The order of values. -/
protected def le (left right : Binary format) : Bool :=
  decide (left.value ≤ right.value)

end Binary

def Double.zero : Double := ⟨false, 0, -1074, by decide⟩

def Double.negativeZero : Double := ⟨true, 0, -1074, by decide⟩

end Corpus
