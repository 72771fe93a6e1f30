import Corpus.Store

/-!
# The ranking of hits

Scores are ranked without ties between different numbers, and identifiers break the ties between
equal scores.  Hits with different identifiers are therefore in a strict order, and a ranking of
them does not depend on the order in which they were found.
-/

namespace Corpus

namespace Component

theorem rank_injective {left right : Float32} (same : rank left = rank right) : left = right := by
  have leftBound := left.toBits.toNat_lt
  have rightBound := right.toBits.toNat_lt
  apply toBits_injective
  apply UInt32.toNat_inj.mp
  simp only [rank] at same
  split at same <;> split at same <;> omega

theorem isNaN_infinity (negative : Bool) : (infinity negative).isNaN = false := by
  cases negative <;> decide

end Component

/-- One hit comes before another: its score is higher, or the scores are equal and its identifier
is smaller. -/
def Hit.Before (left right : Hit) : Prop :=
  Component.rank right.score < Component.rank left.score ∨
    left.score = right.score ∧ left.document.id < right.document.id

theorem Hit.Before.asymm {left right : Hit} (before : left.Before right) : ¬right.Before left := by
  intro after
  rcases before with higher | ⟨same, smaller⟩
  · rcases after with lower | ⟨same, _⟩
    · omega
    · rw [same] at higher
      omega
  · rcases after with higher | ⟨_, greater⟩
    · rw [same] at higher
      omega
    · exact String.lt_asymm smaller greater

namespace MemoryStore

theorem before_iff (left right : Hit) :
    before left right = true ↔
      Component.rank right.score < Component.rank left.score ∨
        Component.rank left.score = Component.rank right.score ∧
          left.document.id ≤ right.document.id := by
  simp only [before]
  split
  · next same => simp [same]
  · next different => simp [different]

theorem before_trans {first second third : Hit} (left : before first second = true)
    (right : before second third = true) : before first third = true := by
  rw [before_iff] at left right ⊢
  rcases left with higher | ⟨same, smaller⟩
  · rcases right with higher' | ⟨same', _⟩
    · exact .inl (by omega)
    · exact .inl (by omega)
  · rcases right with higher' | ⟨same', smaller'⟩
    · exact .inl (by omega)
    · exact .inr ⟨same.trans same', String.le_trans smaller smaller'⟩

theorem before_total (left right : Hit) : (before left right || before right left) = true := by
  rw [Bool.or_eq_true, before_iff, before_iff]
  rcases Int.lt_trichotomy (Component.rank left.score) (Component.rank right.score)
    with lower | same | higher
  · exact .inr (.inl lower)
  · rcases String.le_total left.document.id right.document.id with smaller | greater
    · exact .inl (.inr ⟨same, smaller⟩)
    · exact .inr (.inr ⟨same.symm, greater⟩)
  · exact .inl (.inl higher)

theorem before_of_different {left right : Hit} (ranked : before left right = true)
    (different : left.document.id ≠ right.document.id) : left.Before right := by
  rcases (before_iff left right).mp ranked with higher | ⟨same, smaller⟩
  · exact .inl higher
  · refine .inr ⟨Component.rank_injective same, ?_⟩
    exact String.not_le.mp fun greater => different (String.le_antisymm smaller greater)

theorem rank_perm (query : List Float32) (documents : List Document) :
    (rank query documents).Perm (documents.map (hit query)) :=
  List.mergeSort_perm _ _

theorem mem_rank {query : List Float32} {documents : List Document} {found : Hit} :
    found ∈ rank query documents ↔ ∃ document ∈ documents, hit query document = found := by
  rw [(rank_perm query documents).mem_iff, List.mem_map]

theorem distinct_rank {documents : List Document} (query : List Float32)
    (distinct : documents.Pairwise fun left right => left.id ≠ right.id) :
    (rank query documents).Pairwise fun left right => left.document.id ≠ right.document.id := by
  rw [(rank_perm query documents).pairwise_iff fun different => Ne.symm different,
    List.pairwise_map]
  exact distinct

theorem pairwise_rank {documents : List Document} (query : List Float32)
    (distinct : documents.Pairwise fun left right => left.id ≠ right.id) :
    (rank query documents).Pairwise Hit.Before := by
  have sorted : (rank query documents).Pairwise fun left right => before left right = true := by
    apply List.pairwise_mergeSort
    · intro first second third
      exact before_trans
    · exact before_total
  exact (sorted.and (distinct_rank query distinct)).imp fun both =>
    before_of_different both.1 both.2

/-- The order in which documents are found makes no difference to their ranking. -/
theorem rank_eq_of_perm {documents others : List Document} (query : List Float32)
    (distinct : documents.Pairwise fun left right => left.id ≠ right.id)
    (permuted : documents.Perm others) : rank query documents = rank query others := by
  have othersDistinct : others.Pairwise fun left right => left.id ≠ right.id :=
    (permuted.pairwise_iff fun different => Ne.symm different).mp distinct
  have mapped : (documents.map (hit query)).Perm (others.map (hit query)) := permuted.map _
  refine List.Perm.eq_of_pairwise ?_ (pairwise_rank query distinct)
    (pairwise_rank query othersDistinct) ?_
  · intro left right _ _ before after
    exact absurd after before.asymm
  · exact ((rank_perm query documents).trans mapped).trans (rank_perm query others).symm

end MemoryStore

end Corpus
