import Corpus.Digest.Block

/-!
# SHA-256

The digest of 256 bits.
-/

namespace Corpus

namespace Digest

namespace Sha256

/-- The eight words that a message is folded into. -/
structure State where
  a : UInt32
  b : UInt32
  c : UInt32
  d : UInt32
  e : UInt32
  f : UInt32
  g : UInt32
  h : UInt32

/-- The state before the first block. -/
def State.initial : State :=
  ⟨0x6A09E667, 0xBB67AE85, 0x3C6EF372, 0xA54FF53A,
    0x510E527F, 0x9B05688C, 0x1F83D9AB, 0x5BE0CD19⟩

def State.add (left right : State) : State :=
  ⟨left.a + right.a, left.b + right.b, left.c + right.c, left.d + right.d,
    left.e + right.e, left.f + right.f, left.g + right.g, left.h + right.h⟩

def constants : List UInt32 :=
  [0x428A2F98, 0x71374491, 0xB5C0FBCF, 0xE9B5DBA5, 0x3956C25B, 0x59F111F1, 0x923F82A4, 0xAB1C5ED5,
    0xD807AA98, 0x12835B01, 0x243185BE, 0x550C7DC3, 0x72BE5D74, 0x80DEB1FE, 0x9BDC06A7, 0xC19BF174,
    0xE49B69C1, 0xEFBE4786, 0x0FC19DC6, 0x240CA1CC, 0x2DE92C6F, 0x4A7484AA, 0x5CB0A9DC, 0x76F988DA,
    0x983E5152, 0xA831C66D, 0xB00327C8, 0xBF597FC7, 0xC6E00BF3, 0xD5A79147, 0x06CA6351, 0x14292967,
    0x27B70A85, 0x2E1B2138, 0x4D2C6DFC, 0x53380D13, 0x650A7354, 0x766A0ABB, 0x81C2C92E, 0x92722C85,
    0xA2BFE8A1, 0xA81A664B, 0xC24B8B70, 0xC76C51A3, 0xD192E819, 0xD6990624, 0xF40E3585, 0x106AA070,
    0x19A4C116, 0x1E376C08, 0x2748774C, 0x34B0BCB5, 0x391C0CB3, 0x4ED8AA4A, 0x5B9CCA4F, 0x682E6FF3,
    0x748F82EE, 0x78A5636F, 0x84C87814, 0x8CC70208, 0x90BEFFFA, 0xA4506CEB, 0xBEF9A3F7, 0xC67178F2]

def schedule (block : List UInt32) : List UInt32 :=
  let next := fun recent =>
    let near := ago recent 2
    let far := ago recent 15
    let nearMix := rotateRight near 17 ^^^ rotateRight near 19 ^^^ near >>> 10
    let farMix := rotateRight far 7 ^^^ rotateRight far 18 ^^^ far >>> 3
    ago recent 16 + farMix + ago recent 7 + nearMix
  (stretch next 48 block.reverse).reverse

/-- One round takes in one word with its constant. -/
def step (state : State) (word : UInt32 × UInt32) : State :=
  let upper := rotateRight state.e 6 ^^^ rotateRight state.e 11 ^^^ rotateRight state.e 25
  let choice := (state.e &&& state.f) ^^^ (~~~state.e &&& state.g)
  let first := state.h + upper + choice + word.2 + word.1
  let lower := rotateRight state.a 2 ^^^ rotateRight state.a 13 ^^^ rotateRight state.a 22
  let majority := (state.a &&& state.b) ^^^ (state.a &&& state.c) ^^^ (state.b &&& state.c)
  ⟨first + lower + majority, state.a, state.b, state.c, state.d + first, state.e, state.f, state.g⟩

/-- A state that has taken in one more block. -/
def absorb (state : State) (block : List UInt32) : State :=
  state.add (((schedule block).zip constants).foldl step state)

end Sha256

def sha256 (message : Bytes) : Bytes :=
  let state := (messageBlocks message).foldl Sha256.absorb .initial
  [state.a, state.b, state.c, state.d, state.e, state.f, state.g, state.h].flatMap wordBytes

end Digest

end Corpus
