/-!
# Sets of characters by ranges

A property of characters is a table of ranges of code points, in ascending order.
-/

namespace Corpus

/-- Ranges of code points, first and last included, in ascending order. -/
abbrev CharRanges : Type := List (Nat × Nat)

namespace CharRanges

/-- Whether a code point lies in one of the ranges. -/
def covers : CharRanges → Nat → Bool
  | [], _ => false
  | (first, last) :: ranges, code =>
    if code < first then false
    else if code ≤ last then true
    else covers ranges code

end CharRanges

end Corpus
