import Corpus.Document.Basic
import Corpus.Filter.Basic
import Corpus.Vector.Basic

/-!
# Vector stores

A vector store keeps documents with their embeddings and finds the ones nearest to a query.  The
store in memory keeps one document for each identifier, all with embeddings of one length; adding
a batch either succeeds as a whole or changes nothing.
-/

namespace Corpus

/-- A document that was found, without its embedding, and how near it is to the query. -/
structure Hit where
  document : Document
  score : Float32

/-- What a pipeline asks of a store. -/
class VectorStore (σ : Type) where
  /-- The store with a batch of documents added. -/
  add : σ → List Document → Attempt StoreError σ
  /-- The documents nearest to a query, at most `topK` of them. -/
  search : σ → List Float32 → Nat → Option Filter → Except StoreError (List Hit)
  /-- The store without some documents. -/
  delete : σ → List String → Except StoreError σ

/-- A store in memory. -/
structure MemoryStore where
  /-- The documents by identifier. -/
  documents : KeyMap Document
  /-- The length of all embeddings, as soon as there is a document. -/
  dimension : Option Nat

namespace MemoryStore

/-- The store without documents. -/
def empty : MemoryStore := ⟨.empty, none⟩

def size (store : MemoryStore) : Nat :=
  store.documents.size

def isEmpty (store : MemoryStore) : Bool :=
  store.size == 0

def get? (store : MemoryStore) (id : String) : Option Document :=
  store.documents.get? id

/-- The length that all embeddings of a batch have, if it is the expected one or, where none is
expected, that of the first document.  The first document that breaks the rule is reported. -/
def batchDimension (expected : Option Nat) : List Document → Except StoreError (Option Nat)
  | [] => .ok expected
  | document :: batch =>
    let dimension := document.embedding.length
    if dimension = 0 then .error (.missingEmbedding document.id)
    else
      match expected with
      | none => batchDimension (some dimension) batch
      | some expected =>
        if expected = dimension then batchDimension (some expected) batch
        else .error (.dimensionMismatch expected dimension)

/-- Documents overlaid by a batch, in its order. -/
def put (documents : KeyMap Document) (batch : List Document) : KeyMap Document :=
  batch.foldl (fun documents document => documents.insert document.id document) documents

/-- The identifiers in a batch that take the place of a document when they are put. -/
def replaced (documents : KeyMap Document) : List Document → List String
  | [] => []
  | document :: batch =>
    let later := replaced (documents.insert document.id document) batch
    if documents.contains document.id then document.id :: later else later

def insert (store : MemoryStore) (batch : List Document) : Except StoreError MemoryStore := do
  let dimension ← batchDimension store.dimension batch
  return ⟨put store.documents batch, dimension⟩

/-- The store with a batch added; replaced documents are reported. -/
def add (store : MemoryStore) (batch : List Document) : Attempt StoreError MemoryStore := do
  let added ← Session.settle (store.insert batch)
  for id in replaced store.documents batch do
    Session.report (.replacing id)
  return added

/-- How near a document is to a query; what is not a number counts as farthest. -/
def score (query : List Float32) (document : Document) : Float32 :=
  let cosine := Vector.cosine query document.embedding
  if cosine.isNaN then Component.infinity true else cosine

/-- A document as it is found by a query. -/
def hit (query : List Float32) (document : Document) : Hit :=
  ⟨document.setEmbedding [], score query document⟩

/-- Hits are ranked by descending score, and by identifier where scores are equal. -/
def before (left right : Hit) : Bool :=
  let leftRank := Component.rank left.score
  let rightRank := Component.rank right.score
  if leftRank = rightRank then decide (left.document.id ≤ right.document.id)
  else decide (rightRank < leftRank)

/-- The documents that a filter lets pass. -/
def candidates (store : MemoryStore) (filter : Option Filter) : List Document :=
  (store.documents.entries.map Prod.snd).filter fun document =>
    filter.all (·.matchesMetadata document.metadata)

def rank (query : List Float32) (documents : List Document) : List Hit :=
  (documents.map (hit query)).mergeSort before

/-- The documents nearest to a query, at most `topK` of them. -/
def search (store : MemoryStore) (query : List Float32) (topK : Nat) (filter : Option Filter) :
    Except StoreError (List Hit) :=
  let expected := store.dimension.getD query.length
  if expected = query.length then .ok ((rank query (store.candidates filter)).take topK)
  else .error (.dimensionMismatch expected query.length)

/-- Whether a filter, if there is one, lets a document pass. -/
def passes (filter : Option Filter) (document : Document) : Bool :=
  filter.all (·.matchesMetadata document.metadata)

def stored (store : MemoryStore) : List Document :=
  store.documents.entries.map Prod.snd

/-- The search in documents that are listed in some order. -/
def searchListed (listing : List Document) (dimension : Option Nat) (query : List Float32)
    (topK : Nat) (filter : Option Filter) : Except StoreError (List Hit) :=
  let expected := dimension.getD query.length
  if expected = query.length then
    .ok ((rank query (listing.filter (passes filter))).take topK)
  else .error (.dimensionMismatch expected query.length)

/-- The store without some documents; without any document it takes any dimension again. -/
def delete (store : MemoryStore) (ids : List String) : MemoryStore :=
  let documents := ids.foldl KeyMap.erase store.documents
  ⟨documents, if documents.isEmpty then none else store.dimension⟩

instance : VectorStore MemoryStore where
  add := add
  search := search
  delete := fun store ids => .ok (store.delete ids)

end MemoryStore

/-- A store that cannot be reached: everything asked of it fails. -/
structure BrokenStore where
  cause : String

instance : VectorStore BrokenStore where
  add := fun store _ => Session.settle (.error (.internal store.cause))
  search := fun store _ _ _ => .error (.internal store.cause)
  delete := fun store _ => .error (.internal store.cause)

end Corpus
