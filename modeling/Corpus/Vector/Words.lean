import Corpus.Digest.Fnv
import Corpus.Text.Alphanumeric
import Corpus.Text.Lowercase
import Corpus.Vector.Basic

/-!
# Word vectors

The vector of a text counts its words: every word adds or subtracts one in a bucket that its hash
chooses, and the buckets are scaled to length one, so texts that share words lie close together.
The order of the words and what stands between them do not count.
-/

namespace Corpus

namespace WordVector

/-- The hash of a word, taken in lower case. -/
def wordHash (word : List Char) : UInt64 :=
  Digest.fnv1a (Digest.utf8 (String.ofList (Text.lowercase word)))

/-- Where a word counts, and whether it adds or subtracts one. -/
structure Vote where
  bucket : Nat
  sign : Int
  deriving DecidableEq

/-- A hash votes in the bucket that its remainder chooses; it adds if its first bit is zero. -/
def voteOf (dimension : Nat) (hash : UInt64) : Vote :=
  ⟨hash.toNat % dimension, if hash.toNat < 0x8000000000000000 then 1 else -1⟩

/-- The votes of the words of a text, in their order. -/
def votes (dimension : Nat) (text : String) : List Vote :=
  (Text.words text).map fun word => voteOf dimension (wordHash word)

/-- Components hold every whole number up to this bound; a total that would pass it stays. -/
def totalBound : Int := 0x1000000

def tally (total sign : Int) : Int :=
  max (-totalBound) (min totalBound (total + sign))

def total (votes : List Vote) (bucket : Nat) : Int :=
  ((votes.filter fun vote => vote.bucket == bucket).map Vote.sign).foldl tally 0

def totals (dimension : Nat) (text : String) : List Int :=
  let cast := votes dimension text
  (List.range dimension).map (total cast)

/-- Counts a vote in its bucket, where `add` adds a sign to a total. -/
def castVote (add : Int → Int → Int) (totals : List Int) (vote : Vote) : List Int :=
  totals.modify vote.bucket fun total => add total vote.sign

/-- Goes through the pieces of a text and counts the vote of each. -/
def accumulate (add : Int → Int → Int) (dimension : Nat) (text : String) : List Int :=
  (Text.tokens text).foldl
    (fun totals token => castVote add totals (voteOf dimension (wordHash token)))
    (List.replicate dimension 0)

def ofText (dimension : Nat) (text : String) : List Float32 :=
  Vector.normalise ((totals dimension text).map Component.ofInt)

end WordVector

end Corpus
