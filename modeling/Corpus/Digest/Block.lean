/-!
# Blocks of a message

Both digests of this library cut a message into blocks of sixteen words of 32 bits.  The message
is closed by a one bit, zeros and its length in bits, so that it fills its last block.
-/

namespace Corpus

namespace Digest

abbrev Bytes : Type := List UInt8

/-- The bytes of a text in UTF-8. -/
def utf8 (text : String) : Bytes :=
  text.toUTF8.toList

/-- The low bytes of a number, most significant first. -/
def bigEndian : Nat → Nat → Bytes
  | 0, _ => []
  | count + 1, value => bigEndian count (value / 256) ++ [UInt8.ofNat value]

/-- The word that four bytes write, most significant first. -/
def word (a b c d : UInt8) : UInt32 :=
  a.toUInt32 <<< 24 ||| b.toUInt32 <<< 16 ||| c.toUInt32 <<< 8 ||| d.toUInt32

/-- The bytes of a word, most significant first. -/
def wordBytes (value : UInt32) : Bytes :=
  bigEndian 4 value.toNat

/-- The words of a byte string whose length is a multiple of four. -/
def words : Bytes → List UInt32
  | a :: b :: c :: d :: bytes => word a b c d :: words bytes
  | _ => []

/-- A message, closed to a multiple of 64 bytes. -/
def closed (message : Bytes) : Bytes :=
  let zeros := (119 - message.length % 64) % 64
  message ++ 0x80 :: (List.replicate zeros 0 ++ bigEndian 8 (8 * message.length))

/-- The blocks of some words; `count` bounds their number. -/
def blocks : Nat → List UInt32 → List (List UInt32)
  | 0, _ => []
  | count + 1, words => words.take 16 :: blocks count (words.drop 16)

def messageBlocks (message : Bytes) : List (List UInt32) :=
  let bytes := closed message
  blocks (bytes.length / 64) (words bytes)

def rotateLeft (value : UInt32) (count : UInt32) : UInt32 :=
  value <<< count ||| value >>> (32 - count)

def rotateRight (value : UInt32) (count : UInt32) : UInt32 :=
  value >>> count ||| value <<< (32 - count)

/-- A block stretched to more words.  `recent` holds the words so far, the last one first, and
`next` finds the next word from them. -/
def stretch (next : List UInt32 → UInt32) : Nat → List UInt32 → List UInt32
  | 0, recent => recent
  | count + 1, recent => stretch next count (next recent :: recent)

/-- The word that stands `back` places before the end. -/
def ago (recent : List UInt32) (back : Nat) : UInt32 :=
  recent.getD (back - 1) 0

end Digest

end Corpus
