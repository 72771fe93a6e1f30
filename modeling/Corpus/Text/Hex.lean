/-!
# Hexadecimal digits

Numbers and bytes are written in lower case and read in either case.
-/

namespace Corpus

namespace Hex

/-- The last digit of a number. -/
def digit (value : Nat) : Char :=
  Nat.digitChar (value % 16)

def value? (char : Char) : Option Nat :=
  if '0' ≤ char && char ≤ '9' then some (char.toNat - '0'.toNat)
  else if 'a' ≤ char && char ≤ 'f' then some (char.toNat - 'a'.toNat + 10)
  else if 'A' ≤ char && char ≤ 'F' then some (char.toNat - 'A'.toNat + 10)
  else none

/-- The last digits of a number, `count` of them. -/
def padded : Nat → Nat → List Char
  | 0, _ => []
  | count + 1, value => padded count (value / 16) ++ [digit value]

def ofNat (value : Nat) : List Char :=
  Nat.toDigits 16 value

def ofBytes (bytes : List UInt8) : List Char :=
  bytes.flatMap fun byte => padded 2 byte.toNat

def valueAfter? (value : Nat) : List Char → Option Nat
  | [] => some value
  | char :: chars => do
    let digit ← value? char
    valueAfter? (value * 16 + digit) chars

def number? (chars : List Char) : Option Nat :=
  valueAfter? 0 chars

end Hex

end Corpus
