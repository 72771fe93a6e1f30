import Corpus.Pipeline
import Corpus.Proofs.Formatter.Visibility
import Corpus.Proofs.Store.Batch
import Corpus.Proofs.Store.InPlace

/-!
# What indexing does to a store

Indexing sends the renderings of its documents to the embedding model and gives each document the
vector at its place.  It is refused by the model, for the count of vectors or by the store, and then
leaves the store as it was; otherwise the documents overwrite the store in their order.
-/

namespace Corpus

namespace Pipeline

open MemoryStore (Work Fits FirstMisfit requiredLength)

/-- The texts of documents as an embedding model may see them. -/
def texts (documents : List Document) : List String :=
  documents.map fun document => document.formatter.render document.toRecord .embed

/-- A session in which the texts of documents were rendered and sent. -/
def asked (session : Session) (documents : List Document) : Session :=
  let reports := documents.flatMap fun document =>
    document.formatter.reports document.toRecord .embed
  (session.reporting reports).sending (texts documents)

/-- Why indexing is refused: each cause is looked for where the ones before it are absent. -/
inductive Refusal (embedder : Embedder) (store : MemoryStore) (documents : List Document) :
    RetrievalError → Prop where
  | embedding {error : EmbeddingError} :
      embedder.vectors (texts documents) = .error error →
      Refusal embedder store documents (.embedding error)
  | count {vectors : List (List Float32)} :
      embedder.vectors (texts documents) = .ok vectors →
      vectors.length ≠ documents.length →
      Refusal embedder store documents
        (.embeddingCountMismatch documents.length vectors.length)
  | store {vectors : List (List Float32)} {error : StoreError} :
      embedder.vectors (texts documents) = .ok vectors →
      vectors.length = documents.length →
      FirstMisfit (requiredLength store.dimension vectors) (documents.map (·.id)) vectors error →
      Refusal embedder store documents (.store error)

/-- A store is overwritten by documents in their order, each with the vector at its place: under
every identifier the last document counts, and other identifiers are not touched. -/
structure Overwritten (before : MemoryStore) (documents : List Document)
    (vectors : List (List Float32)) (after : MemoryStore) : Prop where
  last : ∀ (place : Nat) (document : Document) (vector : List Float32),
    documents[place]? = some document → vectors[place]? = some vector →
      (∀ later > place, ∀ other, documents[later]? = some other → other.id ≠ document.id) →
        after.get? document.id = some { document with embedding := vector }
  others : ∀ id, (∀ document ∈ documents, document.id ≠ id) → after.get? id = before.get? id
  fits : ∀ vector ∈ vectors, Fits (requiredLength before.dimension vectors) vector
  dimension : after.dimension =
    if documents.isEmpty then before.dimension
    else some (requiredLength before.dimension vectors)

theorem renderings_run (documents : List Document) (mode : MetadataMode) (session : Session) :
    renderings documents mode session =
      (documents.map fun document => document.formatter.render document.toRecord mode,
        session.reporting (documents.flatMap fun document =>
          document.formatter.reports document.toRecord mode)) := by
  induction documents generalizing session with
  | nil =>
      rw [List.flatMap_nil, Session.reporting_nil]
      rfl
  | cons document documents induction =>
      have first := document.formatter.format_run document.toRecord mode session
      have others := induction
        (session.reporting (document.formatter.reports document.toRecord mode))
      rw [renderings] at others
      simp only [renderings, List.mapM_cons, Document.formattedWith, Document.formatWith, bind,
        StateT.bind, first, List.map_cons, List.flatMap_cons] at others ⊢
      rw [others, Session.reporting_reporting]
      rfl

theorem index_run (embedder : Embedder) (store : MemoryStore) (documents : List Document)
    (session : Session) :
    index embedder store documents session =
      match embedder.vectors (texts documents) with
      | .error error => (.error (.embedding error), asked session documents)
      | .ok vectors =>
        if vectors.length ≠ documents.length then
          (.error (.embeddingCountMismatch documents.length vectors.length),
            asked session documents)
        else
          (store.add (attach documents vectors)).adapt RetrievalError.store
            ((asked session documents).reporting [.indexing documents.length]) := by
  have answered (texts : List String) (session : Session) :
      (embedder.embedBatch texts).adapt RetrievalError.embedding session =
        match embedder.vectors texts with
        | .error error => (.error (.embedding error), session.sending texts)
        | .ok vectors => (.ok vectors, session.sending texts) := by
    have sent : embedder.embedBatch texts session =
        (embedder.vectors texts, session.sending texts) := rfl
    rw [Session.attempt_adapt, sent]
    cases embedder.vectors texts <;> rfl
  rw [index, Session.attempt_bind, Session.attempt_lift, renderings_run]
  simp only [Session.attempt_bind, answered]
  rw [← texts, ← asked]
  cases embedder.vectors (texts documents) with
  | error error => rfl
  | ok vectors =>
      by_cases counts : vectors.length = documents.length
      · simp only [counts, ne_eq, not_true_eq_false, if_false, Session.attempt_bind,
          Session.attempt_report]
        rfl
      · simp only [counts, ne_eq, not_false_eq_true, if_true]
        rfl

theorem indexInPlace_eq (embedder : Embedder) (documents : List Document) :
    indexInPlace embedder documents =
      Work.exchange fun store => index embedder store documents := by
  have added (vectors : List (List Float32)) :
      (Work.exchange fun store =>
        (VectorStore.add store (attach documents vectors)).adapt RetrievalError.store) =
      (MemoryStore.addInPlace (attach documents vectors)).adapt RetrievalError.store := by
    rw [MemoryStore.addInPlace_eq]
    exact Work.exchange_adapt RetrievalError.store fun store => store.add _
  simp only [index, indexInPlace, Work.exchange_bind]
  congr 1
  funext texts
  congr 1
  funext vectors
  by_cases counts : vectors.length = documents.length
  · simp only [counts, ne_eq, not_true_eq_false, if_false, Work.exchange_bind, added]
  · simp only [counts, ne_eq, not_false_eq_true, if_true]
    rfl

theorem map_id_attach {documents : List Document} {vectors : List (List Float32)}
    (counts : vectors.length = documents.length) :
    (attach documents vectors).map (·.id) = documents.map (·.id) := by
  have ids : (attach documents vectors).map (·.id) =
      ((documents.zip vectors).map Prod.fst).map (·.id) := by
    simp [attach, Document.setEmbedding]
  rw [ids, List.map_fst_zip (Nat.le_of_eq counts.symm)]

theorem map_embedding_attach {documents : List Document} {vectors : List (List Float32)}
    (counts : vectors.length = documents.length) :
    (attach documents vectors).map (·.embedding) = vectors := by
  have embeddings : (attach documents vectors).map (·.embedding) =
      (documents.zip vectors).map Prod.snd := by
    simp [attach, Document.setEmbedding]
  rw [embeddings, List.map_snd_zip (Nat.le_of_eq counts)]

/-- At each place stands the document of that place with the vector of that place. -/
theorem getElem?_attach_eq_some {documents : List Document} {vectors : List (List Float32)}
    {place : Nat} {attached : Document} :
    (attach documents vectors)[place]? = some attached ↔
      ∃ document vector, documents[place]? = some document ∧ vectors[place]? = some vector ∧
        { document with embedding := vector } = attached := by
  rw [attach, List.getElem?_map, Option.map_eq_some_iff]
  constructor
  · rintro ⟨⟨document, vector⟩, pairAt, same⟩
    obtain ⟨documentAt, vectorAt⟩ := List.getElem?_zip_eq_some.mp pairAt
    exact ⟨document, vector, documentAt, vectorAt, same⟩
  · rintro ⟨document, vector, documentAt, vectorAt, same⟩
    exact ⟨(document, vector), List.getElem?_zip_eq_some.mpr ⟨documentAt, vectorAt⟩, same⟩

theorem insert_attach (store : MemoryStore) {documents : List Document}
    {vectors : List (List Float32)} (counts : vectors.length = documents.length) :
    match store.insert (attach documents vectors) with
    | .ok after => Overwritten store documents vectors after
    | .error error =>
      FirstMisfit (requiredLength store.dimension vectors) (documents.map (·.id)) vectors
        error := by
  have outcome := store.insert_outcome (attach documents vectors)
  rw [map_embedding_attach counts, map_id_attach counts] at outcome
  cases inserted : store.insert (attach documents vectors) with
  | error error =>
      rw [inserted] at outcome
      exact outcome
  | ok after =>
      rw [inserted] at outcome
      obtain ⟨contents, dimension, fits⟩ := outcome
      refine ⟨?_, ?_, ?_, ?_⟩
      · intro place document vector documentAt vectorAt last
        have attachedAt := getElem?_attach_eq_some.mpr ⟨document, vector, documentAt, vectorAt, rfl⟩
        rw [MemoryStore.get?, contents]
        refine MemoryStore.get?_put_of_last store.documents attachedAt ?_
        intro later after attached laterAt
        obtain ⟨other, _, otherAt, _, rfl⟩ := getElem?_attach_eq_some.mp laterAt
        exact last later after other otherAt
      · intro id absent
        rw [MemoryStore.get?, contents]
        apply MemoryStore.get?_put_of_absent
        intro attached member
        obtain ⟨place, attachedAt⟩ := List.mem_iff_getElem?.mp member
        obtain ⟨document, _, documentAt, _, rfl⟩ := getElem?_attach_eq_some.mp attachedAt
        exact absent document (List.mem_of_getElem? documentAt)
      · intro vector member
        rw [← map_embedding_attach counts] at member
        obtain ⟨document, documentMember, same⟩ := List.mem_map.mp member
        exact same ▸ fits document documentMember
      · have bothEmpty : (attach documents vectors).isEmpty = documents.isEmpty := by
          rw [← List.isEmpty_map, map_id_attach counts, List.isEmpty_map]
        rw [dimension, bothEmpty]

/-- Indexing sends the model the renderings of all documents, in their order.  Where it is refused,
the store in its place is as it was; otherwise the documents overwrite it, each with the vector at
its place. -/
theorem index_outcome (embedder : Embedder) (store : MemoryStore) (documents : List Document)
    (session : Session) :
    ∃ outcome after later,
      indexInPlace embedder documents store session = ((outcome, after), later) ∧
      index embedder store documents session = (outcome.map fun _ => after, later) ∧
      later.sent = session.sent ++ (texts documents).toArray ∧
      match outcome with
      | .error error => after = store ∧ Refusal embedder store documents error
      | .ok () => ∃ vectors,
          embedder.vectors (texts documents) = .ok vectors ∧
          vectors.length = documents.length ∧
          Overwritten store documents vectors after := by
  rw [indexInPlace_eq, Work.exchange, index_run]
  cases answer : embedder.vectors (texts documents) with
  | error error =>
      exact ⟨_, _, _, rfl, rfl, rfl, rfl, .embedding answer⟩
  | ok vectors =>
      by_cases counts : vectors.length = documents.length
      · have outcome := insert_attach store counts
        simp only [counts, ne_eq, not_true_eq_false, if_false, Session.attempt_adapt,
          MemoryStore.add_run]
        cases inserted : store.insert (attach documents vectors) with
        | error error =>
            rw [inserted] at outcome
            exact ⟨_, _, _, rfl, rfl, rfl, rfl, .store answer counts outcome⟩
        | ok added =>
            rw [inserted] at outcome
            exact ⟨_, _, _, rfl, rfl, rfl, vectors, rfl, counts, outcome⟩
      · simp only [counts, ne_eq, not_false_eq_true, if_true]
        exact ⟨_, _, _, rfl, rfl, rfl, rfl, .count answer counts⟩

end Pipeline

end Corpus
