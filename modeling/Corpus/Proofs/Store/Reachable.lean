import Corpus.Proofs.Session
import Corpus.Proofs.Store.Batch
import Corpus.Store.Calls

/-!
# Reachable stores

Calls change a store by inserting and deleting and in no other way.  Every store that they reach
from the empty one keeps each document under its own identifier, and its dimension is the length of
all embeddings, open as long as there is no document.
-/

namespace Corpus

namespace MemoryStore

/-- A store that some calls lead to, from the empty one. -/
def Reachable (store : MemoryStore) : Prop :=
  ∃ calls session, (performAll .empty calls session).1 = store

/-- Adding a batch comes to what inserting it comes to, and reports what it replaces. -/
theorem add_run (store : MemoryStore) (batch : List Document) (session : Session) :
    store.add batch session =
      match store.insert batch with
      | .ok added =>
        (.ok added, session.reporting ((replaced store.documents batch).map Event.replacing))
      | .error error => (.error error, session) := by
  unfold add
  rw [Session.attempt_bind, Session.attempt_settle]
  cases store.insert batch with
  | error error => rfl
  | ok added =>
    simp only [Session.attempt_bind, Session.attempt_reports, Session.attempt_pure]

theorem perform_add (store : MemoryStore) (batch : List Document) (session : Session) :
    store.perform (.add batch) session =
      match store.insert batch with
      | .ok added =>
        ((.done, added),
          session.reporting ((replaced store.documents batch).map Event.replacing))
      | .error error => ((.refused error, store), session) := by
  have performed : store.perform (.add batch) session =
      match store.add batch session with
      | (.ok added, later) => ((.done, added), later)
      | (.error error, later) => ((.refused error, store), later) := by
    simp only [perform, ExceptT.run, bind, StateT.bind]
    cases store.add batch session with
    | mk outcome later => cases outcome <;> rfl
  rw [performed, add_run]
  cases store.insert batch <;> rfl

theorem perform_search (store : MemoryStore) (query : List Float32) (topK : Nat)
    (filter : Option Filter) (session : Session) :
    store.perform (.search query topK filter) session =
      match store.search query topK filter with
      | .ok hits => ((.found hits, store), session)
      | .error error => ((.refused error, store), session) := by
  simp only [perform]
  cases store.search query topK filter <;> rfl

theorem performAll_cons (store : MemoryStore) (call : Call) (calls : List Call)
    (session : Session) :
    store.performAll (call :: calls) session =
      (store.perform call session).1.2.performAll calls (store.perform call session).2 := rfl

/-- A call leaves the store, or inserts a batch into it, or deletes from it. -/
theorem perform_store (store : MemoryStore) (call : Call) (session : Session) :
    (store.perform call session).1.2 = store ∨
      (∃ batch, store.insert batch = .ok (store.perform call session).1.2) ∨
      ∃ ids, (store.perform call session).1.2 = store.delete ids := by
  cases call with
  | add batch =>
    rw [perform_add]
    cases inserted : store.insert batch with
    | error error => exact .inl rfl
    | ok added => exact .inr (.inl ⟨batch, inserted⟩)
  | delete ids => exact .inr (.inr ⟨ids, rfl⟩)
  | search query topK filter =>
    rw [perform_search]
    cases store.search query topK filter <;> exact .inl rfl
  | get id => exact .inl rfl

/-- What holds of the empty store and is kept by inserting and deleting holds of every store that
is reached. -/
theorem Reachable.induction {motive : MemoryStore → Prop} (empty : motive .empty)
    (insert : ∀ {store batch added}, motive store → store.insert batch = .ok added → motive added)
    (delete : ∀ {store} ids, motive store → motive (store.delete ids)) {store : MemoryStore}
    (reachable : store.Reachable) : motive store := by
  obtain ⟨calls, session, same⟩ := reachable
  subst same
  suffices kept : ∀ start : MemoryStore, motive start →
      motive (start.performAll calls session).1 from kept _ empty
  induction calls generalizing session with
  | nil => exact fun _ holds => holds
  | cons call calls induction =>
    intro start holds
    rw [performAll_cons]
    apply induction
    rcases perform_store start call session with same | ⟨batch, inserted⟩ | ⟨ids, deleted⟩
    · rw [same]
      exact holds
    · exact insert holds inserted
    · rw [deleted]
      exact delete ids holds

/-- What every reachable store is like. -/
structure WellFormed (store : MemoryStore) : Prop where
  ownId : ∀ {id document}, store.get? id = some document → document.id = id
  openDimension : store.dimension = none ↔ store.isEmpty = true
  lengths : ∀ {length}, store.dimension = some length →
    length ≠ 0 ∧ ∀ {id document}, store.get? id = some document →
      document.embedding.length = length

theorem isEmpty_eq (store : MemoryStore) : store.isEmpty = store.documents.isEmpty := by
  unfold isEmpty size KeyMap.size KeyMap.isEmpty
  cases store.documents.entries <;> rfl

theorem get?_delete (store : MemoryStore) (ids : List String) (id : String) :
    (store.delete ids).get? id = if id ∈ ids then none else store.get? id :=
  KeyMap.get?_foldl_erase ids store.documents id

theorem wellFormed_empty : WellFormed .empty where
  ownId := fun found => by cases found
  openDimension := by decide
  lengths := fun absent => by cases absent

theorem WellFormed.dimension {store : MemoryStore} (wellFormed : store.WellFormed) {id : String}
    {document : Document} (found : store.get? id = some document) :
    store.dimension = some document.embedding.length := by
  cases determined : store.dimension with
  | none =>
    have isEmpty : store.documents.isEmpty = true :=
      store.isEmpty_eq ▸ wellFormed.openDimension.mp determined
    have absent : store.get? id = none := (KeyMap.isEmpty_iff _).mp isEmpty id
    rw [found] at absent
    contradiction
  | some length => rw [(wellFormed.lengths determined).2 found]

theorem WellFormed.insert {store added : MemoryStore} {batch : List Document}
    (wellFormed : store.WellFormed) (accepted : store.insert batch = .ok added) :
    added.WellFormed := by
  obtain ⟨documents, dimensions⟩ := insert_eq_ok accepted
  have origin {id document} (found : added.get? id = some document) :
      document ∈ batch ∧ document.id = id ∨ store.get? id = some document := by
    rw [get?, documents] at found
    exact get?_put_eq_some found
  refine ⟨?_, ?_, ?_⟩
  · intro id document found
    rcases origin found with ⟨_, same⟩ | before
    · exact same
    · exact wellFormed.ownId before
  · rw [isEmpty_eq, documents, isEmpty_put, ← isEmpty_eq, Bool.and_eq_true,
      ← wellFormed.openDimension, List.isEmpty_iff]
    constructor
    · intro undetermined
      cases batch with
      | nil => exact ⟨rfl, (dimensions.nothing rfl) ▸ undetermined⟩
      | cons document batch =>
        have determined := (dimensions.lengths document (List.mem_cons_self ..)).2
        rw [undetermined] at determined
        contradiction
    · rintro ⟨noBatch, before⟩
      rw [dimensions.nothing noBatch, before]
  · intro length dimension
    constructor
    · cases batch with
      | nil => exact (wellFormed.lengths (dimensions.nothing rfl ▸ dimension)).1
      | cons document batch =>
        have determined := dimensions.lengths document (List.mem_cons_self ..)
        rw [dimension, Option.some.injEq] at determined
        exact determined.2 ▸ determined.1
    · intro id document found
      rcases origin found with ⟨member, _⟩ | before
      · have determined := (dimensions.lengths _ member).2
        rw [dimension, Option.some.injEq] at determined
        exact determined.symm
      · have determined := dimensions.kept _ (wellFormed.dimension before)
        rw [dimension, Option.some.injEq] at determined
        exact determined.symm

theorem WellFormed.delete {store : MemoryStore} (wellFormed : store.WellFormed)
    (ids : List String) : (store.delete ids).WellFormed := by
  have kept {id document} (found : (store.delete ids).get? id = some document) :
      store.get? id = some document := by
    rw [get?_delete] at found
    split at found
    · contradiction
    · exact found
  have dimension : (store.delete ids).dimension =
      if (store.delete ids).isEmpty = true then none else store.dimension := by
    rw [isEmpty_eq]
    rfl
  have emptied (isEmpty : store.isEmpty = true) : (store.delete ids).isEmpty = true := by
    rw [isEmpty_eq, KeyMap.isEmpty_iff] at isEmpty ⊢
    intro id
    have absent : store.get? id = none := isEmpty id
    have given := get?_delete store ids id
    rw [absent, ite_self] at given
    exact given
  refine ⟨?_, ?_, ?_⟩
  · intro id document found
    exact wellFormed.ownId (kept found)
  · rw [dimension]
    split
    · next isEmpty => simp [isEmpty]
    · next occupied =>
      rw [wellFormed.openDimension]
      exact ⟨emptied, fun isEmpty => absurd isEmpty occupied⟩
  · intro length determined
    rw [dimension] at determined
    split at determined
    · contradiction
    · have before := wellFormed.lengths determined
      exact ⟨before.1, fun found => before.2 (kept found)⟩

theorem Reachable.wellFormed {store : MemoryStore} (reachable : store.Reachable) :
    store.WellFormed :=
  reachable.induction wellFormed_empty (fun wellFormed accepted => wellFormed.insert accepted)
    fun ids wellFormed => wellFormed.delete ids

end MemoryStore

end Corpus
