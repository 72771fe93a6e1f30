import Corpus.Digest.Block

/-!
# FNV-1a

A hash of 64 bits: each byte is joined to the hash, which is then multiplied by a prime.
-/

namespace Corpus

namespace Digest

/-- The hash of no bytes. -/
def fnvOffset : UInt64 := 14695981039346656037

def fnvPrime : UInt64 := 1099511628211

def fnv1a (bytes : Bytes) : UInt64 :=
  bytes.foldl (fun hash byte => (hash ^^^ byte.toUInt64) * fnvPrime) fnvOffset

end Digest

end Corpus
