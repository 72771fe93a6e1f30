import Corpus.Digest.Block

/-!
# SHA-1

The digest of 160 bits that name-based identifiers are cut from.
-/

namespace Corpus

namespace Digest

namespace Sha1

/-- The five words that a message is folded into. -/
structure State where
  a : UInt32
  b : UInt32
  c : UInt32
  d : UInt32
  e : UInt32

/-- The state before the first block. -/
def State.initial : State :=
  ⟨0x67452301, 0xEFCDAB89, 0x98BADCFE, 0x10325476, 0xC3D2E1F0⟩

def State.add (left right : State) : State :=
  ⟨left.a + right.a, left.b + right.b, left.c + right.c, left.d + right.d, left.e + right.e⟩

def schedule (block : List UInt32) : List UInt32 :=
  let next := fun recent =>
    rotateLeft (ago recent 3 ^^^ ago recent 8 ^^^ ago recent 14 ^^^ ago recent 16) 1
  (stretch next 64 block.reverse).reverse

/-- The mixing function and the constant of a round. -/
def mixing (state : State) (round : Nat) : UInt32 × UInt32 :=
  let choice := (state.b &&& state.c) ||| (~~~state.b &&& state.d)
  let parity := state.b ^^^ state.c ^^^ state.d
  let majority := (state.b &&& state.c) ||| (state.b &&& state.d) ||| (state.c &&& state.d)
  if round < 20 then (choice, 0x5A827999)
  else if round < 40 then (parity, 0x6ED9EBA1)
  else if round < 60 then (majority, 0x8F1BBCDC)
  else (parity, 0xCA62C1D6)

def step (state : State) (round : Nat) (word : UInt32) : State :=
  let (mixed, constant) := mixing state round
  ⟨rotateLeft state.a 5 + mixed + state.e + constant + word,
    state.a, rotateLeft state.b 30, state.c, state.d⟩

/-- The rounds of some words from a given round on. -/
def rounds (state : State) (round : Nat) : List UInt32 → State
  | [] => state
  | word :: words => rounds (step state round word) (round + 1) words

/-- A state that has taken in one more block. -/
def absorb (state : State) (block : List UInt32) : State :=
  state.add (rounds state 0 (schedule block))

end Sha1

def sha1 (message : Bytes) : Bytes :=
  let state := (messageBlocks message).foldl Sha1.absorb .initial
  [state.a, state.b, state.c, state.d, state.e].flatMap wordBytes

end Digest

end Corpus
