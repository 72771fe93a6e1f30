import Corpus.Splitter

/-!
# Splitting by positions of 64 bits

The sizes of a splitter and the positions in a text can be words of 64 bits.  A sum or a difference
that is not a word, and a slice that does not lie within its text, stop the splitting.
-/

namespace Corpus

namespace Splitter

/-- How a computation with words goes wrong. -/
inductive Fault where
  /-- A sum or a difference that is not a word. -/
  | overflow
  /-- A slice that does not lie within its text. -/
  | outOfRange
  /-- More passes than are allowed. -/
  | unfinished

namespace Word

def add (left right : UInt64) : Except Fault UInt64 :=
  if left.toNat + right.toNat < UInt64.size then .ok (left + right) else .error .overflow

def subtract (left right : UInt64) : Except Fault UInt64 :=
  if right ≤ left then .ok (left - right) else .error .overflow

/-- A sum, or the greatest word if the sum is none. -/
def addSaturating (left right : UInt64) : UInt64 :=
  if left.toNat + right.toNat < UInt64.size then left + right else 0xFFFFFFFFFFFFFFFF

/-- A difference, or zero if the difference is negative. -/
def subtractSaturating (left right : UInt64) : UInt64 :=
  if right ≤ left then left - right else 0

end Word

/-- The count of characters of a text as a word. -/
def lengthWord (text : List Char) : UInt64 := .ofNat text.length

/-- The characters of a text from one position up to another. -/
def slice (text : List Char) (start stop : UInt64) : Except Fault (List Char) :=
  if start ≤ stop ∧ stop ≤ lengthWord text then
    .ok ((text.drop start.toNat).take (stop.toNat - start.toNat))
  else .error .outOfRange

/-- A pass over a text, which cuts out the chunk between two positions. -/
structure Pass where
  start : UInt64
  stop : UInt64
  chunk : List Char

/-- The pass that starts at a position, and where the next one starts unless it is the last. -/
def makePass (size step : UInt64) (text : List Char) (start : UInt64) :
    Except Fault (Pass × Option UInt64) := do
  let sum ← Word.add start size
  let stop := if sum ≤ lengthWord text then sum else lengthWord text
  let chunk ← slice text start stop
  let next := if stop = lengthWord text then none else some (Word.addSaturating start step)
  return (⟨start, stop, chunk⟩, next)

/-- The passes from a position on.  More than `bound` of them are a fault. -/
def makePasses (size step : UInt64) (text : List Char) : Nat → UInt64 → Except Fault (List Pass)
  | 0, start => if start < lengthWord text then .error .unfinished else .ok []
  | bound + 1, start =>
    if start < lengthWord text then do
      let (pass, next) ← makePass size step text start
      match next with
      | none => return [pass]
      | some position => return pass :: (← makePasses size step text bound position)
    else .ok []

/-- A splitter whose sizes are words. -/
structure WordSizes where
  chunkSize : UInt64
  chunkOverlap : UInt64

namespace WordSizes

def overlap (sizes : WordSizes) : UInt64 :=
  let longest := Word.subtractSaturating sizes.chunkSize 1
  if sizes.chunkOverlap ≤ longest then sizes.chunkOverlap else longest

/-- The step between two chunks, at least one character. -/
def step (sizes : WordSizes) : Except Fault UInt64 := do
  let step ← Word.subtract sizes.chunkSize sizes.overlap
  return if 1 ≤ step then step else 1

/-- All passes over a text, at most `bound` of them. -/
def passes (sizes : WordSizes) (bound : Nat) (text : List Char) : Except Fault (List Pass) :=
  if sizes.chunkSize = 0 then .ok []
  else do makePasses sizes.chunkSize (← sizes.step) text bound 0

/-- The splitter that counts without bound. -/
def unbounded (sizes : WordSizes) (copyFormatter : Bool) : Splitter :=
  ⟨sizes.chunkSize.toNat, sizes.chunkOverlap.toNat, copyFormatter⟩

end WordSizes

end Splitter

end Corpus
