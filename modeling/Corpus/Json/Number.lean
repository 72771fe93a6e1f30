import Corpus.Decimal.Layout

/-!
# JSON numbers

A number is a whole number of 64 bits, signed or unsigned, or a finite binary number.  A literal
without fraction and exponent is whole where it fits; `-0` and every other literal is real.  Reals
are written with the fewest digits that determine them.  They are read in a few rounded steps, so
the text of a real can be read as a neighbour of that real.
-/

namespace Corpus

/-- The whole numbers that a JSON number holds exactly. -/
def Number.Whole (value : Int) : Prop :=
  -0x8000000000000000 ≤ value ∧ value < 0x10000000000000000

instance (value : Int) : Decidable (Number.Whole value) :=
  inferInstanceAs (Decidable (_ ∧ _))

/-- A JSON number. -/
inductive Number where
  | integer (value : Int) (whole : Number.Whole value)
  | real (value : Double)
  deriving DecidableEq

namespace Number

/-- Numbers are alike when both are whole and equal, or both are real with equal values; `1` and
`1.0` are not alike. -/
def alike : Number → Number → Bool
  | .integer left _, .integer right _ => left == right
  | .real left, .real right => left.alike right
  | _, _ => false

/-- The real nearest to a whole number; zero stands for a whole number beyond every real. -/
def roundWhole (value : Int) : Double :=
  (Binary.ofInt? .double value).getD Double.zero

/-- A whole number, as a real where it does not fit. -/
def ofInt (value : Int) : Number :=
  if whole : Whole value then .integer value whole else .real (roundWhole value)

/-- The number as a real; whole numbers are rounded. -/
def toDouble : Number → Double
  | .integer value _ => roundWhole value
  | .real value => value

/-- Reals are written positionally from `0.00001` up to sixteen digits before the point. -/
def layout : Decimal.Layout := ⟨-5, 15⟩

def writeReal (value : Double) : List Char :=
  layout.writeBinary value

def writeWhole (value : Int) : List Char :=
  if value < 0 then '-' :: Decimal.digitChars value.natAbs
  else Decimal.digitChars value.natAbs

def write : Number → List Char
  | .integer value _ => writeWhole value
  | .real value => writeReal value

/-- The parts of a number literal. -/
structure Literal where
  negative : Bool
  whole : List Char
  fraction : Option (List Char)
  exponent : Option (Bool × List Char)

namespace Literal

/-- Takes digits into a significand up to the first one that would carry it beyond 64 bits; how many
digits are left is counted. -/
def takeDigits (significand : Nat) : List Char → Nat × Nat
  | [] => (significand, 0)
  | char :: chars =>
    let next := significand * 10 + (char.toNat - '0'.toNat)
    if next < 0x10000000000000000 then takeDigits next chars
    else (significand, chars.length + 1)

/-- The double nearest to a power of ten; there is one up to the power 308. -/
def tenTo (power : Nat) : Option Double :=
  Binary.nearest .double false (Nat.pow 10 power : Nat)

/-- A magnitude times a power of ten, which are each rounded before the product is. -/
def product (value : Double) (power : Nat) : Option Double := do
  let factor ← tenTo power
  Binary.nearest .double false (value.magnitude * factor.magnitude)

/-- A magnitude divided by a power of ten, which are each rounded before the quotient is. -/
def quotient (value : Double) (power : Nat) : Option Double := do
  let divisor ← tenTo power
  Binary.nearest .double false (value.magnitude / divisor.magnitude)

/-- Division by a greater power of ten: first by `10 ^ 308` in some turns, which end at zero, then
by what is left of the power. -/
def quotientInTurns (value : Double) (power : Nat) : Nat → Option Double
  | 0 => quotient value power
  | turns + 1 =>
    if value.isZero then some value
    else do
      let value ← quotient value 308
      quotientInTurns value (power - 308) turns

/-- A significand times a power of ten.  The significand, the power and the result are rounded one
after the other, so the result can be a neighbour of the double nearest to the exact product. -/
def scaled (significand : Nat) (exponent : Int) : Option Double :=
  let value := roundWhole significand
  if exponent < 0 then quotientInTurns value exponent.natAbs ((exponent.natAbs - 1) / 308)
  else if exponent ≤ 308 then product value exponent.natAbs
  else if value.isZero then some value
  else none

/-- The magnitude of a literal read as a real.  Digits of the whole part that the significand does
not take still count as powers of ten, those of the fraction are dropped.  An exponent beyond 32
bits is settled by its sign. -/
def magnitude? (literal : Literal) : Option Double :=
  let places := literal.fraction.getD []
  let (ahead, uncounted) := takeDigits 0 literal.whole
  let (significand, dropped) := takeDigits ahead places
  let start : Int := uncounted - (places.length - dropped : Nat)
  match literal.exponent with
  | none => scaled significand start
  | some (negative, digits) =>
    let power := Decimal.ofDigitChars digits
    if power < 0x80000000 then
      scaled significand (if negative then start - power else start + power)
    else if significand = 0 || negative then some Double.zero
    else none

/-- The literal read as a real; `none` is an overflow. -/
def real? (literal : Literal) : Option Number :=
  literal.magnitude?.map fun magnitude => .real { magnitude with negative := literal.negative }

/-- The number of a literal; `none` is an overflow. -/
def number? (literal : Literal) : Option Number :=
  match literal.fraction, literal.exponent with
  | none, none =>
    let magnitude := Decimal.ofDigitChars literal.whole
    let value : Int := if literal.negative then -(magnitude : Int) else magnitude
    if literal.negative && magnitude == 0 then some (.real Double.negativeZero)
    else if whole : Whole value then some (.integer value whole)
    else literal.real?
  | _, _ => literal.real?

/-- The digits at the front of a text, and the rest. -/
def digits (text : List Char) : List Char × List Char :=
  text.span Char.isDigit

/-- An optional fraction: a point and at least one digit. -/
def scanFraction : List Char → Option (Option (List Char) × List Char)
  | '.' :: text =>
    match digits text with
    | ([], _) => none
    | (places, rest) => some (some places, rest)
  | text => some (none, text)

def scanPower (negative : Bool) (text : List Char) :
    Option (Option (Bool × List Char) × List Char) :=
  match digits text with
  | ([], _) => none
  | (places, rest) => some (some (negative, places), rest)

/-- An optional exponent: `e` or `E`, an optional sign and at least one digit. -/
def scanExponent : List Char → Option (Option (Bool × List Char) × List Char)
  | 'e' :: '-' :: text | 'E' :: '-' :: text => scanPower true text
  | 'e' :: '+' :: text | 'E' :: '+' :: text => scanPower false text
  | 'e' :: text | 'E' :: text => scanPower false text
  | text => some (none, text)

/-- The whole part: a single zero, or digits that do not start with one. -/
def scanWhole (text : List Char) : Option (List Char × List Char) :=
  match digits text with
  | ([], _) => none
  | ('0' :: _ :: _, _) => none
  | (whole, rest) => some (whole, rest)

def scanMagnitude (negative : Bool) (text : List Char) : Option (Literal × List Char) := do
  let (whole, text) ← scanWhole text
  let (fraction, text) ← scanFraction text
  let (exponent, text) ← scanExponent text
  return (⟨negative, whole, fraction, exponent⟩, text)

/-- The literal at the front of a text, and the rest. -/
def scan : List Char → Option (Literal × List Char)
  | '-' :: text => scanMagnitude true text
  | text => scanMagnitude false text

end Literal

end Number

end Corpus
