import Corpus.Document.Basic
import Corpus.Vector.Words

/-!
# Embedders

An embedder is a model that turns texts into vectors.  The hashing embedder needs no model and
gives every text its word vector.
-/

namespace Corpus

/-- A model that turns texts into vectors, one by one or many at a time. -/
structure Embedder where
  dimension : Nat
  vector : String → Except EmbeddingError (List Float32)
  vectors : List String → Except EmbeddingError (List (List Float32))

namespace Embedder

/-- The vector of one text, which is sent to the model. -/
def embed (embedder : Embedder) (text : String) : Attempt EmbeddingError (List Float32) := do
  Session.send [text]
  Session.settle (embedder.vector text)

/-- The vectors of some texts, which are sent to the model. -/
def embedBatch (embedder : Embedder) (texts : List String) :
    Attempt EmbeddingError (List (List Float32)) := do
  Session.send texts
  Session.settle (embedder.vectors texts)

/-- The vector of a document, rendered as an embedding model may see it. -/
def embedDocument (embedder : Embedder) (document : Document) :
    Attempt EmbeddingError (List Float32) := do
  let text ← document.formattedWith .embed
  embedder.embed text

/-- An embedder that answers with fixed rows, whatever the texts are; one text gets the first. -/
def fixed (rows : List (List Float32)) : Embedder where
  dimension := (rows.headD []).length
  vector := fun _ => .ok (rows.headD [])
  vectors := fun _ => .ok rows

def failing (error : EmbeddingError) : Embedder where
  dimension := 0
  vector := fun _ => .error error
  vectors := fun _ => .error error

end Embedder

/-- The embedder that hashes words into the given count of buckets. -/
def Embedder.hashing (dimension : Nat) : Embedder where
  dimension := dimension
  vector := fun text => .ok (WordVector.ofText dimension text)
  vectors := fun texts => .ok (texts.map (WordVector.ofText dimension))

end Corpus
