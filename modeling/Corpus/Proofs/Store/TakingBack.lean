import Corpus.Proofs.Store.Log

/-!
# Taking a batch back

What a batch has added is gone once its identifiers are removed: the store is then the one that the
same removal leaves without the batch.  As the dimension of a store is open exactly if the store is
empty, the length that a batch has set goes with its documents.
-/

namespace Corpus

namespace MemoryStore

section

variable {store added : MemoryStore} {batch : List Document} {ids : List String}

theorem ext {left right : MemoryStore} (documents : ∀ id, left.get? id = right.get? id)
    (dimension : left.dimension = right.dimension) : left = right := by
  have sameDocuments : left.documents = right.documents := KeyMap.ext_get? documents
  cases left
  cases right
  cases sameDocuments
  cases dimension
  rfl

theorem dimension_delete (store : MemoryStore) (ids : List String) :
    (store.delete ids).dimension =
      if (store.delete ids).documents.isEmpty then none else store.dimension := rfl

/-- Removing identifiers leaves the store as it is exactly if it holds none of them. -/
theorem WellFormed.delete_eq_self_iff (wellFormed : store.WellFormed) :
    store.delete ids = store ↔ ∀ id ∈ ids, store.get? id = none := by
  constructor
  · intro same id listed
    rw [← same, get?_delete, if_pos listed]
  · intro absent
    have documents (id : String) : (store.delete ids).get? id = store.get? id := by
      rw [get?_delete]
      split
      · next listed => rw [absent id listed]
      · rfl
    have sameDocuments : (store.delete ids).documents = store.documents :=
      KeyMap.ext_get? documents
    apply ext documents
    rw [dimension_delete, sameDocuments]
    split
    · next isEmpty =>
      rw [← isEmpty_eq] at isEmpty
      exact (wellFormed.openDimension.mpr isEmpty).symm
    · rfl

theorem get?_ne_none_of_insert (accepted : store.insert batch = .ok added) {document : Document}
    (member : document ∈ batch) : added.get? document.id ≠ none := by
  rw [get?, (insert_eq_ok accepted).1, get?_put]
  intro absent
  have unnamed := (Option.or_eq_none_iff.mp absent).1
  rw [List.find?_eq_none] at unnamed
  exact unnamed document (List.mem_reverse.mpr member) (beq_self_eq_true document.id)

/-- Behind a removal of all its identifiers it makes no difference whether a batch was added. -/
theorem WellFormed.delete_of_insert (wellFormed : store.WellFormed)
    (accepted : store.insert batch = .ok added)
    (listed : ∀ document ∈ batch, document.id ∈ ids) : added.delete ids = store.delete ids := by
  obtain ⟨put, dimensions⟩ := insert_eq_ok accepted
  have documents (id : String) : (added.delete ids).get? id = (store.delete ids).get? id := by
    rw [get?_delete, get?_delete]
    split
    · rfl
    · next unlisted =>
      have unnamed : ∀ document ∈ batch, document.id ≠ id := fun document member same =>
        unlisted (same ▸ listed document member)
      rw [get?, put, get?_put_of_absent _ unnamed, get?]
  have sameDocuments : (added.delete ids).documents = (store.delete ids).documents :=
    KeyMap.ext_get? documents
  apply ext documents
  rw [dimension_delete, dimension_delete, sameDocuments]
  split
  · rfl
  · next occupied =>
    obtain ⟨id, document, left⟩ : ∃ id document, (store.delete ids).get? id = some document := by
      rw [KeyMap.isEmpty_iff, Classical.not_forall] at occupied
      obtain ⟨id, present⟩ := occupied
      exact ⟨id, Option.ne_none_iff_exists'.mp present⟩
    have before : store.get? id = some document := by
      rw [get?_delete] at left
      split at left
      · cases left
      · exact left
    rw [wellFormed.dimension before, dimensions.kept _ (wellFormed.dimension before)]

end

/-- After a batch was taken none of whose identifiers was stored, a removal leaves the store as it
was before the batch, its dimension included, exactly if it lists every identifier of the batch and
none that was stored before. -/
theorem deleteInPlace_restores_iff {store added : MemoryStore} {batch : List Document}
    {session middle : Session} (reachable : store.Reachable)
    (unstored : ∀ document ∈ batch, store.get? document.id = none)
    (taken : addInPlace batch store session = ((.ok (), added), middle))
    (ids : List String) (later : Session) :
    deleteInPlace ids added later = (((), store), later) ↔
      (∀ document ∈ batch, document.id ∈ ids) ∧ ∀ id ∈ ids, store.get? id = none := by
  have wellFormed := reachable.wellFormed
  have accepted : store.insert batch = .ok added := (addInPlace_eq_ok_iff.mp taken).1
  have restored : deleteInPlace ids added later = (((), store), later) ↔
      added.delete ids = store := by
    rw [deleteInPlace_run]
    constructor
    · intro same
      exact congrArg (·.1.2) same
    · rintro same
      rw [same]
  rw [restored]
  constructor
  · intro same
    have listed : ∀ document ∈ batch, document.id ∈ ids := by
      intro document member
      apply Decidable.byContradiction
      intro unlisted
      have stands : store.get? document.id = added.get? document.id := by
        rw [← same, get?_delete, if_neg unlisted]
      exact get?_ne_none_of_insert accepted member (stands.symm.trans (unstored document member))
    have kept : store.delete ids = store := by
      rw [← wellFormed.delete_of_insert accepted listed, same]
    exact ⟨listed, wellFormed.delete_eq_self_iff.mp kept⟩
  · rintro ⟨listed, absent⟩
    rw [wellFormed.delete_of_insert accepted listed]
    exact wellFormed.delete_eq_self_iff.mpr absent

/-- A batch with a repeated identifier is taken back from a store with another document, and from an
empty one, whose dimension is open again. -/
theorem deleteInPlace_restores_iff_repeated :
    let session := Session.start fun _ => ""
    let occupied := (performAll .empty [.add [noted "a" ""]] session).1
    let batch := [noted "b" "", noted "c" "", noted "b" "again"]
    (occupied.Reachable ∧ (∀ document ∈ batch, occupied.get? document.id = none) ∧
      ∃ added middle, addInPlace batch occupied session = ((.ok (), added), middle) ∧
        added.size = 3 ∧
        deleteInPlace ["c", "x", "b", "c"] added middle = (((), occupied), middle)) ∧
      MemoryStore.empty.Reachable ∧
        (∀ document ∈ batch, MemoryStore.empty.get? document.id = none) ∧
        ∃ added middle, addInPlace batch .empty session = ((.ok (), added), middle) ∧
          added.dimension = some 1 ∧
          deleteInPlace ["c", "x", "b", "c"] added middle = (((), .empty), middle) := by
  intro session occupied batch
  constructor
  · have reachable : occupied.Reachable := ⟨[.add [noted "a" ""]], session, rfl⟩
    have unstored : ∀ document ∈ batch, occupied.get? document.id = none := by decide
    exact ⟨reachable, unstored, _, _, rfl, rfl,
      (deleteInPlace_restores_iff reachable unstored rfl _ _).mpr (by decide)⟩
  · have reachable : MemoryStore.empty.Reachable := ⟨[], session, rfl⟩
    have unstored : ∀ document ∈ batch, MemoryStore.empty.get? document.id = none := by decide
    exact ⟨reachable, unstored, _, _, rfl, rfl,
      (deleteInPlace_restores_iff reachable unstored rfl _ _).mpr (by decide)⟩

end MemoryStore

end Corpus
