import Corpus.Proofs.Store.Reachable
import Corpus.Store.InPlace

/-!
# A store in place and one that is handed on

Work that fails in place keeps the changes that it has made.  A batch is checked before the first
change, so a store in place goes through the same states as a store that is handed on, and in each
of them documents, identifiers and dimension fit together.
-/

namespace Corpus

namespace MemoryStore

variable {ε α β : Type}

namespace Work

/-- An attempt at a whole store, which takes the place of the one before unless the attempt
fails. -/
def exchange (attempt : MemoryStore → Attempt ε MemoryStore) : Work ε Unit := fun store session =>
  match attempt store session with
  | (.ok next, later) => ((.ok (), next), later)
  | (.error error, later) => ((.error error, store), later)

theorem bind_run (work : Work ε α) (next : α → Work ε β) (store : MemoryStore)
    (session : Session) :
    (work >>= next) store session =
      match work store session with
      | ((.ok value, changed), later) => next value changed later
      | ((.error error, changed), later) => ((.error error, changed), later) := by
  simp only [bind, ExceptT.bind, ExceptT.mk, StateT.bind, ExceptT.bindCont]
  rcases work store session with ⟨⟨outcome, changed⟩, later⟩
  cases outcome <;> rfl

theorem get_run (store : MemoryStore) (session : Session) :
    (get : Work ε MemoryStore) store session = ((.ok store, store), session) := rfl

theorem set_run (next store : MemoryStore) (session : Session) :
    (set next : Work ε PUnit) store session = ((.ok (), next), session) := rfl

theorem exchange_bind (attempt : Attempt ε α) (next : α → MemoryStore → Attempt ε MemoryStore) :
    (exchange fun store => attempt >>= fun value => next value store) =
      beside attempt >>= fun value => exchange (next value) := by
  funext store session
  rw [bind_run, exchange, beside, Session.attempt_bind]
  rcases attempt session with ⟨outcome, later⟩
  cases outcome <;> rfl

theorem exchange_adapt {δ : Type} (change : ε → δ)
    (attempt : MemoryStore → Attempt ε MemoryStore) :
    (exchange fun store => (attempt store).adapt change) = (exchange attempt).adapt change := by
  funext store session
  have adapted : ((exchange attempt).adapt change : Work δ Unit) store session =
      (((exchange attempt store session).1.1.mapError change,
        (exchange attempt store session).1.2), (exchange attempt store session).2) := rfl
  rw [adapted, exchange, exchange, Session.attempt_adapt]
  rcases attempt store session with ⟨outcome, later⟩
  cases outcome <;> rfl

end Work

theorem putInPlace_run (document : Document) (store : MemoryStore) (session : Session) :
    (putInPlace document : Work ε Unit) store session =
      ((.ok (), { store with documents := store.documents.insert document.id document }),
        session.reporting
          (if store.documents.contains document.id then [.replacing document.id] else [])) := by
  rw [putInPlace, Work.bind_run, Work.get_run]
  cases contained : store.documents.contains document.id with
  | false =>
      simp only [contained, Bool.false_eq_true, if_false, Session.reporting_nil, Work.set_run]
  | true =>
      have reported := Session.attempt_report (ε := ε) (.replacing document.id) session
      simp only [contained, if_true, Work.bind_run, Work.beside, reported, Work.set_run]

theorem forM_putInPlace (batch : List Document) (store : MemoryStore) (session : Session) :
    (forM batch putInPlace : Work ε Unit) store session =
      ((.ok (), { store with documents := put store.documents batch }),
        session.reporting ((replaced store.documents batch).map Event.replacing)) := by
  induction batch generalizing store session with
  | nil =>
      simp only [replaced, List.map_nil, Session.reporting_nil]
      rfl
  | cons document batch induction =>
      rw [List.forM_cons, Work.bind_run, putInPlace_run]
      simp only [induction, Session.reporting_reporting, replaced]
      cases store.documents.contains document.id <;> rfl

/-- Adding in place comes to what adding to a store that is handed on comes to; a refused batch
leaves the store as it was. -/
theorem addInPlace_eq (batch : List Document) :
    addInPlace batch = Work.exchange fun store => store.add batch := by
  funext store session
  rw [addInPlace, Work.bind_run, Work.get_run]
  simp only [Work.bind_run, Work.beside, Session.attempt_settle, Work.exchange, add_run]
  cases accepted : batchDimension store.dimension batch with
  | error error =>
      have refused : store.insert batch = .error error := by rw [insert, accepted]; rfl
      simp only [refused]
  | ok dimension =>
      have inserted : store.insert batch = .ok ⟨put store.documents batch, dimension⟩ := by
        rw [insert, accepted]
        rfl
      simp only [inserted, Work.set_run, forM_putInPlace]

theorem addInPlace_run (batch : List Document) (store : MemoryStore) (session : Session) :
    addInPlace batch store session =
      match store.insert batch with
      | .ok added =>
        ((.ok (), added),
          session.reporting ((replaced store.documents batch).map Event.replacing))
      | .error error => ((.error error, store), session) := by
  rw [addInPlace_eq, Work.exchange, add_run]
  cases store.insert batch <;> rfl

theorem addInPlace_eq_ok_iff {batch : List Document} {store after : MemoryStore}
    {session later : Session} :
    addInPlace batch store session = ((.ok (), after), later) ↔
      store.insert batch = .ok after ∧
        later = session.reporting ((replaced store.documents batch).map Event.replacing) := by
  rw [addInPlace_run]
  cases store.insert batch with
  | ok added =>
      constructor
      · rintro ⟨⟩
        exact ⟨rfl, rfl⟩
      · rintro ⟨⟨⟩, rfl⟩
        rfl
  | error error => exact iff_of_false (by rintro ⟨⟩) (by rintro ⟨⟨⟩, _⟩)

theorem addInPlace_eq_error_iff {batch : List Document} {store : MemoryStore} {session : Session}
    {error : StoreError} :
    (addInPlace batch store session).1.1 = .error error ↔ store.insert batch = .error error := by
  rw [addInPlace_run]
  cases store.insert batch with
  | ok added => exact iff_of_false (by rintro ⟨⟩) (by rintro ⟨⟩)
  | error found => rw [Except.error.injEq, Except.error.injEq]

theorem forM_eraseInPlace (ids : List String) (store : MemoryStore) (session : Session) :
    (forM ids eraseInPlace) store session =
      (((), { store with documents := ids.foldl KeyMap.erase store.documents }), session) := by
  induction ids generalizing store with
  | nil => rfl
  | cons id ids induction =>
      rw [List.forM_cons]
      exact induction { store with documents := store.documents.erase id }

theorem deleteInPlace_run (ids : List String) (store : MemoryStore) (session : Session) :
    deleteInPlace ids store session = (((), store.delete ids), session) := by
  have modified (change : MemoryStore → MemoryStore) (store : MemoryStore) :
      (modify change : StateT MemoryStore Run PUnit) store session =
        (((), change store), session) := rfl
  simp only [deleteInPlace, bind, StateT.bind, forM_eraseInPlace, modified, delete]
  cases (ids.foldl KeyMap.erase store.documents).isEmpty <;> rfl

theorem callInPlace_eq (call : Call) (store : MemoryStore) :
    callInPlace call store = store.perform call := by
  funext session
  cases call with
  | add batch =>
      have performed : callInPlace (.add batch) store session =
          match addInPlace batch store session with
          | ((.ok (), changed), later) => ((.done, changed), later)
          | ((.error error, changed), later) => ((.refused error, changed), later) := by
        simp only [callInPlace, ExceptT.run, bind, StateT.bind]
        rcases addInPlace batch store session with ⟨⟨outcome, changed⟩, later⟩
        cases outcome <;> rfl
      rw [performed, addInPlace_run, perform_add]
      cases store.insert batch <;> rfl
  | delete ids =>
      simp only [callInPlace, bind, StateT.bind, deleteInPlace_run]
      rfl
  | search query topK filter =>
      have held : (get : StateT MemoryStore Run MemoryStore) store session =
          ((store, store), session) := rfl
      rw [perform_search]
      simp only [callInPlace, bind, StateT.bind, held]
      cases store.search query topK filter <;> rfl
  | get id => rfl

theorem useInPlace_eq (calls : List Call) (store : MemoryStore) (session : Session) :
    useInPlace calls store session =
      (((), (store.performAll calls session).1), (store.performAll calls session).2) := by
  induction calls generalizing store session with
  | nil => rfl
  | cons call calls induction =>
      rw [performAll_cons, ← induction, ← callInPlace_eq]
      rfl

/-- Whatever calls are made to an empty store, refused ones among them, each document is then held
under its own identifier, the dimension is open exactly as long as there is no document, and
otherwise it is the length of every embedding and not zero. -/
theorem documents_fit_dimension (calls : List Call) (session : Session) :
    let store := (performAll .empty calls session).1
    (useInPlace calls .empty session).1.2 = store ∧
    (∀ id document, store.get? id = some document → document.id = id) ∧
    (store.dimension = none ↔ ∀ id, store.get? id = none) ∧
    ∀ length, store.dimension = some length →
      0 < length ∧ ∀ id document, store.get? id = some document →
        document.embedding.length = length := by
  intro store
  have wellFormed : store.WellFormed := Reachable.wellFormed ⟨calls, session, rfl⟩
  refine ⟨?_, ?_, ?_, ?_⟩
  · rw [useInPlace_eq]
  · intro id document found
    exact wellFormed.ownId found
  · rw [wellFormed.openDimension, isEmpty_eq]
    exact KeyMap.isEmpty_iff _
  · intro length determined
    have lengths := wellFormed.lengths determined
    exact ⟨Nat.pos_of_ne_zero lengths.1, fun id document found => lengths.2 found⟩

end MemoryStore

end Corpus
