import Corpus.Vector.Component

/-!
# Vectors

Similarity and length of vectors.  Sums run from the first component to the last, each operation
rounded to 32 bits.
-/

namespace Corpus

namespace Vector

/-- The sums that a cosine is made from. -/
structure Sums where
  dot : Float32
  left : Float32
  right : Float32

def Sums.add (sums : Sums) (pair : Float32 × Float32) : Sums :=
  ⟨sums.dot + pair.1 * pair.2, sums.left + pair.1 * pair.1, sums.right + pair.2 * pair.2⟩

/-- The cosine of the angle between two vectors, and zero if one of them has no length. -/
def cosine (left right : List Float32) : Float32 :=
  let sums := (left.zip right).foldl Sums.add ⟨0, 0, 0⟩
  if sums.left == 0 || sums.right == 0 then 0
  else sums.dot / (sums.left.sqrt * sums.right.sqrt)

def norm (vector : List Float32) : Float32 :=
  (vector.foldl (fun sum component => sum + component * component) 0).sqrt

/-- The vector of length one in the same direction; a vector without length stays as it is. -/
def normalise (vector : List Float32) : List Float32 :=
  let length := norm vector
  if length > 0 then vector.map (· / length) else vector

end Vector

end Corpus
