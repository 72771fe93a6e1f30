import Corpus.Proofs.Store.Ranking
import Corpus.Proofs.Store.Reachable

/-!
# Exactness of the search

A search answers with the documents that rank first among all documents that the filter lets pass,
each exactly once and without its embedding.  The documents may be listed in any order.
-/

namespace Corpus

namespace MemoryStore

/-- The exact answer to a query: the first hits, as many as are asked for, in the order of all
documents that the filter lets pass. -/
structure ExactAnswer (store : MemoryStore) (query : List Float32) (topK : Nat)
    (filter : Option Filter) (hits : List Hit) : Prop where
  count : hits.length = min topK (store.stored.countP (passes filter))
  distinct : hits.Pairwise fun left right => left.document.id ≠ right.document.id
  faithful : ∀ hit ∈ hits, ∃ document,
    store.get? document.id = some document ∧ passes filter document = true ∧
      hit.document = { document with embedding := [] } ∧
      hit.score =
        if (Vector.cosine query document.embedding).isNaN then Component.infinity true
        else Vector.cosine query document.embedding
  number : ∀ hit ∈ hits, hit.score.isNaN = false
  ordered : hits.Pairwise Hit.Before
  complete : ∀ document, store.get? document.id = some document →
    passes filter document = true → (∀ hit ∈ hits, hit.document.id ≠ document.id) →
      ∀ hit ∈ hits, hit.Before (MemoryStore.hit query document)

theorem search_eq_searchListed (store : MemoryStore) (query : List Float32) (topK : Nat)
    (filter : Option Filter) :
    store.search query topK filter =
      searchListed store.stored store.dimension query topK filter := rfl

theorem isNaN_score (query : List Float32) (document : Document) :
    (score query document).isNaN = false := by
  simp only [score]
  split
  · exact Component.isNaN_infinity true
  · next number => simpa using number

theorem WellFormed.mem_stored {store : MemoryStore} (wellFormed : store.WellFormed)
    {document : Document} :
    document ∈ store.stored ↔ store.get? document.id = some document := by
  rw [stored, KeyMap.mem_values_iff]
  constructor
  · rintro ⟨id, found⟩
    have same : document.id = id := wellFormed.ownId found
    rw [same]
    exact found
  · exact fun found => ⟨document.id, found⟩

theorem WellFormed.distinct_stored {store : MemoryStore} (wellFormed : store.WellFormed) :
    store.stored.Pairwise fun left right => left.id ≠ right.id := by
  have own {entry : String × Document} (member : entry ∈ store.documents.entries) :
      entry.2.id = entry.1 :=
    wellFormed.ownId (KeyMap.get?_eq_some_iff.mpr member)
  rw [stored, List.pairwise_map]
  apply store.documents.sorted.imp_of_mem
  intro left right leftMember rightMember smaller same
  rw [own leftMember, own rightMember] at same
  exact String.lt_irrefl _ (same ▸ smaller)

/-- The first hits of the ranking are the exact answer. -/
theorem WellFormed.exactAnswer {store : MemoryStore} (wellFormed : store.WellFormed)
    (query : List Float32) (topK : Nat) (filter : Option Filter) :
    ExactAnswer store query topK filter
      ((rank query (store.stored.filter (passes filter))).take topK) := by
  have distinct : (store.stored.filter (passes filter)).Pairwise
      fun left right => left.id ≠ right.id := wellFormed.distinct_stored.filter _
  have origin {found : Hit}
      (member : found ∈ (rank query (store.stored.filter (passes filter))).take topK) :
      ∃ document, store.get? document.id = some document ∧ passes filter document = true ∧
        hit query document = found := by
    obtain ⟨document, candidate, same⟩ := mem_rank.mp (List.mem_of_mem_take member)
    obtain ⟨inStore, passing⟩ := List.mem_filter.mp candidate
    exact ⟨document, wellFormed.mem_stored.mp inStore, passing, same⟩
  have ordered := pairwise_rank query distinct
  refine ⟨?_, ?_, ?_, ?_, ?_, ?_⟩
  · rw [List.length_take, (rank_perm query _).length_eq, List.length_map,
      List.countP_eq_length_filter]
  · exact (distinct_rank query distinct).sublist (List.take_sublist ..)
  · intro found member
    obtain ⟨document, inStore, passing, same⟩ := origin member
    subst same
    exact ⟨document, inStore, passing, rfl, rfl⟩
  · intro found member
    obtain ⟨document, _, _, same⟩ := origin member
    subst same
    exact isNaN_score query document
  · exact ordered.sublist (List.take_sublist ..)
  · intro document inStore passing missing found member
    have candidate : document ∈ store.stored.filter (passes filter) :=
      List.mem_filter.mpr ⟨wellFormed.mem_stored.mpr inStore, passing⟩
    have ranked : hit query document ∈ rank query (store.stored.filter (passes filter)) :=
      mem_rank.mpr ⟨document, candidate, rfl⟩
    rw [← List.take_append_drop topK (rank query _)] at ranked ordered
    rcases List.mem_append.mp ranked with taken | left
    · exact absurd rfl (missing _ taken)
    · exact (List.pairwise_append.mp ordered).2.2 found member _ left

theorem WellFormed.searchListed_eq {store : MemoryStore} (wellFormed : store.WellFormed)
    {listing : List Document} (permuted : store.stored.Perm listing) (query : List Float32)
    (topK : Nat) (filter : Option Filter) :
    searchListed listing store.dimension query topK filter =
      store.search query topK filter := by
  have same : rank query (store.stored.filter (passes filter)) =
      rank query (listing.filter (passes filter)) :=
    rank_eq_of_perm query (wellFormed.distinct_stored.filter _) (permuted.filter _)
  rw [search_eq_searchListed, searchListed, searchListed, same]

/-- A query of another length than the embeddings is refused; every other query has an exact
answer.  The order in which the documents are listed makes no difference, and the store stays as
it is. -/
theorem search_exact {store : MemoryStore} (reachable : store.Reachable) (query : List Float32)
    (topK : Nat) (filter : Option Filter) :
    (store.isEmpty = false → ∃ dimension, store.dimension = some dimension ∧
      (dimension ≠ query.length →
        store.search query topK filter = .error (.dimensionMismatch dimension query.length))) ∧
    (store.isEmpty = true ∨ store.dimension = some query.length →
      ∃ hits, store.search query topK filter = .ok hits ∧
        ExactAnswer store query topK filter hits) ∧
    (∀ listing, store.stored.Perm listing →
      searchListed listing store.dimension query topK filter = store.search query topK filter) ∧
    ∀ session, (store.perform (.search query topK filter) session).1.2 = store := by
  have wellFormed := reachable.wellFormed
  refine ⟨?_, ?_, ?_, ?_⟩
  · intro occupied
    cases determined : store.dimension with
    | none =>
      rw [wellFormed.openDimension.mp determined] at occupied
      contradiction
    | some dimension =>
      refine ⟨dimension, rfl, ?_⟩
      intro different
      rw [search_eq_searchListed, searchListed, determined]
      exact if_neg different
  · intro fits
    have expected : store.dimension.getD query.length = query.length := by
      rcases fits with isEmpty | determined
      · rw [wellFormed.openDimension.mpr isEmpty]
        rfl
      · rw [determined]
        rfl
    refine ⟨_, ?_, wellFormed.exactAnswer query topK filter⟩
    rw [search_eq_searchListed, searchListed]
    exact if_pos expected
  · intro listing permuted
    exact wellFormed.searchListed_eq permuted query topK filter
  · intro session
    rw [perform_search]
    cases store.search query topK filter <;> rfl

def far : Document :=
  (Document.assemble "far" "" [] .empty).setEmbedding [1, 0]

def near : Document :=
  (Document.assemble "near" "" [] .empty).setEmbedding [0, 1]

/-- The store after two documents were added to an empty one. -/
def nearAndFar : MemoryStore :=
  (performAll .empty [.add [far, near]] (Session.start fun _ => "")).1

/-- The document in the direction of the query is found, and the other one is left out. -/
theorem search_exact_nearAndFar :
    (∃ found, nearAndFar.search [0, 1] 1 none = .ok [found] ∧
      found.document = near.setEmbedding []) ∧
      nearAndFar.search [0] 1 none = .error (.dimensionMismatch 2 1) := by
  have reachable : nearAndFar.Reachable := ⟨_, _, rfl⟩
  have dimension : nearAndFar.dimension = some 2 := by decide +kernel
  constructor
  · obtain ⟨hits, answered, answer⟩ :=
      (search_exact reachable [0, 1] 1 none).2.1 (.inr dimension)
    have one : min 1 (nearAndFar.stored.countP (passes none)) = 1 := by decide +kernel
    obtain ⟨found, rfl⟩ := List.length_eq_one_iff.mp (answer.count.trans one)
    have member := List.mem_singleton_self found
    obtain ⟨document, inStore, -, stripped, score⟩ := answer.faithful found member
    have held : document ∈ [far, near] := reachable.wellFormed.mem_stored.mpr inStore
    rw [List.mem_cons, List.mem_singleton] at held
    refine ⟨found, answered, ?_⟩
    rcases held with rfl | rfl
    · have lower : Component.rank (hit [0, 1] far).score < Component.rank (hit [0, 1] near).score :=
        by decide +kernel
      have sameScore : found.score = (hit [0, 1] far).score := score
      have missing : ∀ other ∈ [found], other.document.id ≠ near.id := by
        intro other isFound
        rw [List.mem_singleton.mp isFound, stripped]
        decide
      rcases answer.complete near rfl rfl missing found member with higher | ⟨equal, -⟩
      · rw [sameScore] at higher
        omega
      · rw [← sameScore, equal] at lower
        omega
    · exact stripped
  · obtain ⟨length, determined, refused⟩ :=
      (search_exact reachable [0] 1 none).1 (by decide +kernel)
    rw [dimension, Option.some.injEq] at determined
    subst determined
    exact refused (by decide)

end MemoryStore

end Corpus
