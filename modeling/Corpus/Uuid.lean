import Corpus.Digest.Sha1
import Corpus.Text.Hex

/-!
# Universally unique identifiers

An identifier is sixteen bytes, written as five groups of hexadecimal digits.  One that is made
from a name carries the version 5 and is the start of a digest of the name within a namespace.
-/

namespace Corpus

namespace Uuid

open Digest (Bytes)

def oidNamespace : Bytes :=
  [0x6B, 0xA7, 0xB8, 0x12, 0x9D, 0xAD, 0x11, 0xD1, 0x80, 0xB4, 0x00, 0xC0, 0x4F, 0xD4, 0x30, 0xC8]

/-- Sixteen bytes with the version in the seventh and the variant in the ninth. -/
def tagged (version : UInt8) (bytes : Bytes) : Bytes :=
  let mark := fun (byte kept tag : UInt8) => (byte &&& kept) ||| tag
  (bytes.modify 6 (mark · 0x0F (version <<< 4))).modify 8 (mark · 0x3F 0x80)

def ofName (space name : Bytes) : Bytes :=
  tagged 5 ((Digest.sha1 (space ++ name)).take 16)

/-- The text of an identifier: groups of 4, 2, 2, 2 and 6 bytes. -/
def text (bytes : Bytes) : String :=
  let group := fun start count => Hex.ofBytes ((bytes.drop start).take count)
  String.ofList (group 0 4 ++ '-' :: group 4 2 ++ '-' :: group 6 2 ++ '-' :: group 8 2
    ++ '-' :: group 10 6)

end Uuid

end Corpus
