import Corpus.Embedder
import Corpus.Store.InPlace

/-!
# Indexing and retrieval

Indexing embeds documents, rendered as an embedding model may see them, and adds them to a store.
Retrieval embeds a query and searches the store for it.
-/

namespace Corpus

namespace Pipeline

def renderings (documents : List Document) (mode : MetadataMode) : Run (List String) :=
  documents.mapM fun document => document.formattedWith mode

def attach (documents : List Document) (vectors : List (List Float32)) : List Document :=
  (documents.zip vectors).map fun pair => pair.1.setEmbedding pair.2

def index {σ : Type} [VectorStore σ] (embedder : Embedder) (store : σ)
    (documents : List Document) : Attempt RetrievalError σ := do
  let texts ← renderings documents .embed
  let vectors ← (embedder.embedBatch texts).adapt RetrievalError.embedding
  if vectors.length ≠ documents.length then
    throw (.embeddingCountMismatch documents.length vectors.length)
  Session.report (.indexing documents.length)
  (VectorStore.add store (attach documents vectors)).adapt RetrievalError.store

/-- Indexing into a store that is changed in place. -/
def indexInPlace (embedder : Embedder) (documents : List Document) :
    MemoryStore.Work RetrievalError Unit := do
  let texts ← MemoryStore.Work.beside (renderings documents .embed)
  let vectors ← MemoryStore.Work.beside
    ((embedder.embedBatch texts).adapt RetrievalError.embedding)
  if vectors.length ≠ documents.length then
    throw (.embeddingCountMismatch documents.length vectors.length)
  MemoryStore.Work.beside (Session.report (.indexing documents.length))
  (MemoryStore.addInPlace (attach documents vectors)).adapt RetrievalError.store

/-- Searches a store for the documents nearest to a text. -/
def retrieve {σ : Type} [VectorStore σ] (embedder : Embedder) (store : σ) (query : String)
    (topK : Nat) (filter : Option Filter) : Attempt RetrievalError (List Hit) := do
  let vector ← (embedder.embed query).adapt RetrievalError.embedding
  let hits ← (Session.settle (VectorStore.search store vector topK filter)).adapt
    RetrievalError.store
  Session.report (.retrieved topK hits.length)
  return hits

end Pipeline

end Corpus
