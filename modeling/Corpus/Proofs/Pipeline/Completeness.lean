import Corpus.Proofs.Pipeline.Indexing
import Corpus.Proofs.Store.Log
import Corpus.Proofs.Store.Search
import Mathlib.Data.List.Dedup
import Mathlib.Data.List.Perm.Subperm

/-!
# Nothing that is indexed is lost

The hashing embedder gives every text a vector of its dimension, so a store takes every batch that
is indexed with it.  Afterwards the store holds the last document of every identifier, and a query
that asks for enough documents finds each of them once, whatever the scores are.
-/

namespace Corpus

theorem Vector.length_normalise (vector : List Float32) :
    (normalise vector).length = vector.length := by
  rw [normalise]
  split
  · exact List.length_map _
  · rfl

@[simp] theorem WordVector.length_ofText (dimension : Nat) (text : String) :
    (ofText dimension text).length = dimension := by
  simp [ofText, totals, Vector.length_normalise]

namespace Pipeline

open MemoryStore (LastNamed)

/-- An embedder gives a document, embedded alone, a vector. -/
def Embeds (embedder : Embedder) (document : Document) (vector : List Float32) : Prop :=
  ∀ session, (embedder.embedDocument document session).1 = .ok vector

variable {dimension : Nat} {store : MemoryStore}

/-- The document with its word vector. -/
def embedded (dimension : Nat) (document : Document) : Document :=
  document.setEmbedding
    (WordVector.ofText dimension (document.formatter.render document.toRecord .embed))

theorem id_embedded (dimension : Nat) (document : Document) :
    (embedded dimension document).id = document.id := rfl

theorem embeds_hashing (dimension : Nat) (document : Document) :
    Embeds (.hashing dimension) document (embedded dimension document).embedding := by
  intro session
  rw [Embedder.embedDocument, Session.attempt_bind, Session.attempt_lift]
  simp only [Document.formattedWith, Document.formatWith, Formatter.format_run]
  rfl

theorem attach_hashing (dimension : Nat) (documents : List Document) :
    attach documents ((texts documents).map (WordVector.ofText dimension)) =
      documents.map (embedded dimension) := by
  induction documents with
  | nil => rfl
  | cons document documents induction =>
      exact congrArg (embedded dimension document :: ·) induction

/-- A store that is empty or has the embedder's dimension takes every batch. -/
theorem index_hashing (positive : 0 < dimension) (documents : List Document)
    (fits : ∀ found, store.dimension = some found → found = dimension) (session : Session) :
    ∃ added later,
      index (.hashing dimension) store documents session = (.ok added, later) ∧
      store.insert (documents.map (embedded dimension)) = .ok added ∧
      added.documents = MemoryStore.put store.documents (documents.map (embedded dimension)) ∧
      ∀ found, added.dimension = some found → found = dimension := by
  have lengths : ∀ document ∈ documents.map (embedded dimension),
      document.embedding.length = dimension := by
    intro document member
    obtain ⟨source, -, rfl⟩ := List.mem_map.mp member
    exact WordVector.length_ofText ..
  obtain ⟨added, inserted, contents, dimensions⟩ :=
    MemoryStore.insert_of_lengths positive fits lengths
  have answered : (Embedder.hashing dimension).vectors (texts documents) =
      .ok ((texts documents).map (WordVector.ofText dimension)) := rfl
  have counts : ((texts documents).map (WordVector.ofText dimension)).length =
      documents.length := by
    rw [List.length_map, texts, List.length_map]
  have ran := index_run (.hashing dimension) store documents session
  simp only [answered, counts, ne_eq, not_true_eq_false, if_false, attach_hashing,
    Session.attempt_adapt, MemoryStore.add_run, inserted] at ran
  exact ⟨added, _, ran, inserted, contents, dimensions⟩

/-- Every sequence of batches is taken, and comes to one batch. -/
theorem foldlM_index_hashing (positive : 0 < dimension) (batches : List (List Document))
    (wellFormed : store.WellFormed)
    (fits : ∀ found, store.dimension = some found → found = dimension) (session : Session) :
    ∃ after later,
      (batches.foldlM (index (.hashing dimension)) store :
        Attempt RetrievalError MemoryStore) session = (.ok after, later) ∧
      after.WellFormed ∧
      after.documents =
        MemoryStore.put store.documents (batches.flatten.map (embedded dimension)) ∧
      ∀ found, after.dimension = some found → found = dimension := by
  induction batches generalizing store session with
  | nil => exact ⟨store, session, rfl, wellFormed, rfl, fits⟩
  | cons batch batches induction =>
      obtain ⟨added, middle, indexed, inserted, contents, addedFits⟩ :=
        index_hashing positive batch fits session
      obtain ⟨after, later, others, afterWellFormed, afterContents, afterFits⟩ :=
        induction (wellFormed.insert inserted) addedFits middle
      refine ⟨after, later, ?_, afterWellFormed, ?_, afterFits⟩
      · rw [List.foldlM_cons, Session.attempt_bind, indexed]
        exact others
      · rw [afterContents, contents, List.flatten_cons, List.map_append, MemoryStore.put_append]

/-! ## Retrieval -/

theorem retrieve_run (embedder : Embedder) (store : MemoryStore) (query : String) (topK : Nat)
    (filter : Option Filter) (session : Session) :
    retrieve embedder store query topK filter session =
      match embedder.vector query with
      | .error error => (.error (.embedding error), session.sending [query])
      | .ok vector =>
        match store.search vector topK filter with
        | .error error => (.error (.store error), session.sending [query])
        | .ok hits =>
          (.ok hits, (session.sending [query]).reporting [.retrieved topK hits.length]) := by
  have sent : embedder.embed query session =
      (embedder.vector query, session.sending [query]) := rfl
  have searched (vector : List Float32) :
      VectorStore.search store vector topK filter = store.search vector topK filter := rfl
  rw [retrieve, Session.attempt_bind, Session.attempt_adapt, sent]
  cases embedder.vector query with
  | error error => rfl
  | ok vector =>
      simp only [Except.mapError, Session.attempt_bind, Session.attempt_adapt,
        Session.attempt_settle, searched]
      cases store.search vector topK filter with
      | error error => rfl
      | ok hits => simp only [Session.attempt_report, Session.attempt_pure]

/-- A query that asks for enough is answered with the ranking of all documents. -/
theorem retrieve_hashing (fits : ∀ found, store.dimension = some found → found = dimension)
    {topK : Nat} (enough : store.stored.length ≤ topK) (query : String) (session : Session) :
    ∃ later, retrieve (.hashing dimension) store query topK none session =
      (.ok (MemoryStore.rank (WordVector.ofText dimension query) store.stored), later) := by
  have expected : store.dimension.getD (WordVector.ofText dimension query).length =
      (WordVector.ofText dimension query).length := by
    cases determined : store.dimension with
    | none => rfl
    | some found => simp [fits found determined]
  have unfiltered : store.stored.filter (MemoryStore.passes none) = store.stored :=
    List.filter_eq_self.mpr fun _ _ => rfl
  have searched : store.search (WordVector.ofText dimension query) topK none =
      .ok (MemoryStore.rank (WordVector.ofText dimension query) store.stored) := by
    rw [MemoryStore.search_eq_searchListed, MemoryStore.searchListed, if_pos expected, unfiltered,
      List.take_of_length_le]
    rw [(MemoryStore.rank_perm _ _).length_eq, List.length_map]
    exact enough
  have answered : (Embedder.hashing dimension).vector query =
      .ok (WordVector.ofText dimension query) := rfl
  rw [retrieve_run, answered]
  simp only [searched]
  exact ⟨_, rfl⟩

section

variable {documents : List Document}

theorem get?_eq_some_iff_embedded
    (contents : store.documents = MemoryStore.put .empty (documents.map (embedded dimension)))
    (id : String) (stored : Document) :
    store.get? id = some stored ↔
      ∃ document, LastNamed id document documents ∧ embedded dimension document = stored := by
  have absent : ¬(KeyMap.empty : KeyMap Document).get? id = some stored := by
    rw [KeyMap.get?_empty]
    exact Option.some_ne_none _ ∘ Eq.symm
  rw [MemoryStore.get?, contents, MemoryStore.get?_put_eq_some_iff,
    MemoryStore.lastNamed_map (id_embedded dimension)]
  simp [absent]

theorem length_stored_le
    (contents : store.documents = MemoryStore.put .empty (documents.map (embedded dimension))) :
    store.stored.length ≤ (documents.map (·.id)).dedup.length := by
  have known : store.documents.keys ⊆ (documents.map (·.id)).dedup := by
    intro id member
    obtain ⟨stored, found⟩ := KeyMap.mem_keys_iff.mp member
    obtain ⟨document, last, -⟩ := (get?_eq_some_iff_embedded contents id stored).mp found
    rw [List.mem_dedup, List.mem_map]
    exact ⟨document, last.mem⟩
  have count : store.stored.length = store.documents.keys.length := by
    rw [MemoryStore.stored, KeyMap.keys, List.length_map, List.length_map]
  rw [count]
  exact (List.Nodup.subperm (KeyMap.nodup_keys _) known).length_le

end

/-- Indexing takes every sequence of batches into an empty store.  Under each identifier then stands
the last document that was indexed with it, together with the vector which the embedder gives this
document alone, and nothing else is stored.  A query for at least as many documents as there are
identifiers finds each of these documents once, with everything it had but its embedding. -/
theorem retrieve_complete (dimension : Nat) (positive : 1 ≤ dimension)
    (batches : List (List Document)) (session : Session) :
    ∃ store later,
      (batches.foldlM (index (.hashing dimension)) MemoryStore.empty :
        Attempt RetrievalError MemoryStore) session = (.ok store, later) ∧
      (∀ id stored, store.get? id = some stored ↔
        ∃ document vector, LastNamed id document batches.flatten ∧
          Embeds (.hashing dimension) document vector ∧
          stored = { document with embedding := vector }) ∧
      ∀ query topK session, (batches.flatten.map (·.id)).dedup.length ≤ topK →
        ∃ hits later,
          retrieve (.hashing dimension) store query topK none session = (.ok hits, later) ∧
          hits.Pairwise (fun left right => left.document.id ≠ right.document.id) ∧
          ∀ found, (∃ hit ∈ hits, hit.document = found) ↔
            ∃ document, LastNamed document.id document batches.flatten ∧
              found = { document with embedding := [] } := by
  have openDimension (found : Nat) (absent : MemoryStore.empty.dimension = some found) :
      found = dimension := by
    cases absent
  obtain ⟨store, later, indexed, wellFormed, contents, fits⟩ :=
    foldlM_index_hashing positive batches MemoryStore.wellFormed_empty openDimension session
  have gives := get?_eq_some_iff_embedded contents
  refine ⟨store, later, indexed, ?_, ?_⟩
  · intro id stored
    rw [gives]
    constructor
    · rintro ⟨document, last, rfl⟩
      exact ⟨document, _, last, embeds_hashing dimension document, rfl⟩
    · rintro ⟨document, vector, last, embeds, rfl⟩
      have same : Except.ok vector = .ok (embedded dimension document).embedding :=
        (embeds session).symm.trans (embeds_hashing dimension document session)
      cases same
      exact ⟨document, last, rfl⟩
  · intro query topK session enough
    obtain ⟨later, retrieved⟩ := retrieve_hashing fits
      (Nat.le_trans (length_stored_le contents) enough) query session
    refine ⟨_, later, retrieved, MemoryStore.distinct_rank _ wellFormed.distinct_stored, ?_⟩
    intro found
    constructor
    · rintro ⟨hit, member, rfl⟩
      obtain ⟨stored, inStore, rfl⟩ := MemoryStore.mem_rank.mp member
      obtain ⟨document, last, rfl⟩ := (gives _ _).mp (wellFormed.mem_stored.mp inStore)
      exact ⟨document, last, rfl⟩
    · rintro ⟨document, last, rfl⟩
      have inStore : embedded dimension document ∈ store.stored :=
        wellFormed.mem_stored.mpr ((gives _ _).mpr ⟨document, last, rfl⟩)
      exact ⟨_, MemoryStore.mem_rank.mpr ⟨_, inStore, rfl⟩, rfl⟩

/-- A document that takes the place of an earlier one is found, and so is one without words. -/
theorem retrieve_complete_replaced :
    let session := Session.start fun _ => ""
    let first := Document.assemble "a" "first" [] .empty
    let wordless := Document.assemble "b" "?!" [] .empty
    let second := Document.assemble "a" "second" [] .empty
    ∃ store later,
      ([[first, wordless], [], [second]].foldlM (index (.hashing 2)) MemoryStore.empty :
        Attempt RetrievalError MemoryStore) session = (.ok store, later) ∧
      (∃ vector, Embeds (.hashing 2) second vector ∧
        store.get? "a" = some { second with embedding := vector }) ∧
      ∃ hits later, retrieve (.hashing 2) store "..." 2 none session = (.ok hits, later) ∧
        (∃ hit ∈ hits, hit.document = second) ∧ (∃ hit ∈ hits, hit.document = wordless) ∧
        ∀ hit ∈ hits, hit.document.content ≠ "first" := by
  intro session first wordless second
  obtain ⟨store, later, indexed, gives, found⟩ :=
    retrieve_complete 2 (by decide) [[first, wordless], [], [second]] session
  have lastSecond : LastNamed "a" second [first, wordless, second] :=
    MemoryStore.lastNamed_cons.mpr (.inl (MemoryStore.lastNamed_cons.mpr (.inl
      (MemoryStore.lastNamed_cons.mpr (.inr ⟨⟨rfl, rfl⟩, List.forall_mem_nil _⟩)))))
  have lastWordless : LastNamed "b" wordless [first, wordless, second] := by
    refine MemoryStore.lastNamed_cons.mpr (.inl (MemoryStore.lastNamed_cons.mpr (.inr ?_)))
    exact ⟨⟨rfl, rfl⟩, List.forall_mem_singleton.mpr (by decide)⟩
  obtain ⟨hits, ended, retrieved, -, holds⟩ := found "..." 2 session (by decide)
  refine ⟨store, later, indexed, ?_, hits, ended, retrieved, ?_, ?_, ?_⟩
  · exact ⟨_, embeds_hashing 2 second,
      (gives "a" _).mpr ⟨second, _, lastSecond, embeds_hashing 2 second, rfl⟩⟩
  · exact (holds second).mpr ⟨second, lastSecond, rfl⟩
  · exact (holds wordless).mpr ⟨wordless, lastWordless, rfl⟩
  · intro hit member same
    obtain ⟨document, last, shown⟩ := (holds hit.document).mp ⟨hit, member, rfl⟩
    have content : document.content = "first" := (congrArg (·.content) shown).symm.trans same
    rcases MemoryStore.lastNamed_cons.mp last with behind | ⟨⟨rfl, -⟩, unnamed⟩
    · have others : ∀ other ∈ [wordless, second], other.content ≠ "first" := by
        simp [wordless, second, Document.assemble]
      exact others document behind.mem.1 content
    · exact unnamed second (by simp) rfl

end Pipeline

end Corpus
