import Corpus.Proofs.Store.Log

/-!
# Refused batches

A batch is taken if each of its embeddings has the length that the store requires, and is refused
for the first one that has not.  What is refused leaves nothing behind: a run of calls gives the
same replies, events and documents if calls that were refused in it are left out.
-/

namespace Corpus

namespace MemoryStore

section

variable {length : Nat} {id : String} {embedding : List Float32} {error other : StoreError}
  {ids : List String} {embeddings : List (List Float32)}

theorem Misfit.not_fits (misfit : Misfit length id embedding error) : ¬Fits length embedding := by
  rintro ⟨present, fits⟩
  cases misfit with
  | missing => exact present rfl
  | mismatch _ differs => exact differs fits

theorem Misfit.unique (misfit : Misfit length id embedding error)
    (otherMisfit : Misfit length id embedding other) : error = other := by
  cases misfit with
  | missing =>
      cases otherMisfit with
      | missing => rfl
      | mismatch present _ => exact absurd rfl present
  | mismatch present _ =>
      cases otherMisfit with
      | missing => exact absurd rfl present
      | mismatch _ _ => rfl

theorem FirstMisfit.not_all_fit {batch : List Document}
    (first : FirstMisfit length (batch.map (·.id)) (batch.map (·.embedding)) error) :
    ¬∀ document ∈ batch, Fits length document.embedding := by
  intro fit
  obtain ⟨place, id, embedding, -, embeddingAt, -, misfit⟩ := first
  obtain ⟨document, member, rfl⟩ := List.mem_map.mp (List.mem_of_getElem? embeddingAt)
  exact misfit.not_fits (fit document member)

theorem FirstMisfit.unique (first : FirstMisfit length ids embeddings error)
    (otherFirst : FirstMisfit length ids embeddings other) : error = other := by
  obtain ⟨place, id, embedding, idAt, embeddingAt, fit, misfit⟩ := first
  obtain ⟨otherPlace, otherId, otherEmbedding, otherIdAt, otherAt, otherFit, otherMisfit⟩ :=
    otherFirst
  rcases Nat.lt_trichotomy place otherPlace with earlier | same | later
  · exact absurd (otherFit place earlier embedding embeddingAt) misfit.not_fits
  · subst same
    obtain rfl := Option.some.inj (idAt.symm.trans otherIdAt)
    obtain rfl := Option.some.inj (embeddingAt.symm.trans otherAt)
    exact misfit.unique otherMisfit
  · exact absurd (fit otherPlace later otherEmbedding otherAt) otherMisfit.not_fits

end

section

variable {store : MemoryStore} {batch : List Document}

theorem exists_insert_eq_ok_iff :
    (∃ added, store.insert batch = .ok added) ↔
      ∀ document ∈ batch,
        Fits (requiredLength store.dimension (batch.map (·.embedding))) document.embedding := by
  have outcome := store.insert_outcome batch
  cases inserted : store.insert batch with
  | ok added =>
      rw [inserted] at outcome
      exact iff_of_true ⟨added, rfl⟩ outcome.2.2
  | error error =>
      rw [inserted] at outcome
      exact iff_of_false (by rintro ⟨added, ⟨⟩⟩) (FirstMisfit.not_all_fit outcome)

theorem insert_eq_error_iff {error : StoreError} :
    store.insert batch = .error error ↔
      FirstMisfit (requiredLength store.dimension (batch.map (·.embedding)))
        (batch.map (·.id)) (batch.map (·.embedding)) error := by
  have outcome := store.insert_outcome batch
  cases inserted : store.insert batch with
  | ok added =>
      rw [inserted] at outcome
      exact iff_of_false (by rintro ⟨⟩) fun first => first.not_all_fit outcome.2.2
  | error found =>
      rw [inserted] at outcome
      constructor
      · rintro ⟨⟩
        exact outcome
      · intro first
        rw [first.unique outcome]

theorem addInPlace_taken_iff {session : Session} :
    (addInPlace batch store session).1.1 = .ok () ↔
      ∀ document ∈ batch,
        Fits (requiredLength store.dimension (batch.map (·.embedding))) document.embedding := by
  rw [← exists_insert_eq_ok_iff, addInPlace_run]
  cases store.insert batch with
  | ok added => exact iff_of_true rfl ⟨added, rfl⟩
  | error error => exact iff_of_false (by rintro ⟨⟩) (by rintro ⟨added, ⟨⟩⟩)

theorem addInPlace_of_refused {session : Session} {error : StoreError}
    (refused : (addInPlace batch store session).1.1 = .error error) :
    addInPlace batch store session = ((.error error, store), session) := by
  rw [addInPlace_run, addInPlace_eq_error_iff.mp refused]

end

/-- A call that is refused leaves the store and the session as they are. -/
theorem perform_of_refused {store : MemoryStore} {call : Call} {session : Session}
    {error : StoreError} (refused : (store.perform call session).1.1 = .refused error) :
    store.perform call session = ((.refused error, store), session) := by
  cases call with
  | add batch =>
      rw [perform_add] at refused ⊢
      cases inserted : store.insert batch with
      | ok added =>
          rw [inserted] at refused
          cases refused
      | error found =>
          rw [inserted] at refused
          cases refused
          rfl
  | delete ids => cases refused
  | search query topK filter =>
      rw [perform_search] at refused ⊢
      cases searched : store.search query topK filter with
      | ok hits =>
          rw [searched] at refused
          cases refused
      | error found =>
          rw [searched] at refused
          cases refused
          rfl
  | get id => cases refused

theorem logged_cons_of_refused {store : MemoryStore} {call : Call} {session : Session}
    {error : StoreError} (refused : (store.perform call session).1.1 = .refused error)
    (calls : List Call) :
    logged (call :: calls) store session =
      let others := logged calls store session
      (((call, .refused error) :: others.1.1, others.1.2), others.2) := by
  rw [logged_cons, perform_of_refused refused]

/-- Calls that were refused in a run can be left out of it: the others give the same replies, and
the store and the session end up the same. -/
theorem logged_filter {keep : Call × Reply → Bool}
    (leavesRefused : ∀ entry, keep entry = false → ∃ error, entry.2 = .refused error)
    (calls : List Call) (store : MemoryStore) (session : Session) :
    let run := logged calls store session
    let kept := run.1.1.filter keep
    logged (kept.map Prod.fst) store session = ((kept, run.1.2), run.2) := by
  induction calls generalizing store session with
  | nil => rfl
  | cons call calls induction =>
      cases kept : keep (call, (store.perform call session).1.1) with
      | true =>
          have others := induction (store.perform call session).1.2 (store.perform call session).2
          simp only at others
          simp only [logged_cons, List.filter_cons, kept, if_true, List.map_cons, others]
      | false =>
          obtain ⟨error, refused⟩ : ∃ error, (store.perform call session).1.1 = .refused error :=
            leavesRefused _ kept
          rw [refused] at kept
          simp only [logged_cons_of_refused refused, List.filter_cons, kept, Bool.false_eq_true,
            if_false]
          exact induction store session

/-- A batch is taken exactly if every embedding fits, and is otherwise refused for the first one
that does not.  A refused batch leaves the store and the session as they were, so that all later
calls come to what they come to without it; calls that were refused can be left out of any run. -/
theorem addInPlace_outcome (store : MemoryStore) (batch : List Document) (session : Session) :
    let length := requiredLength store.dimension (batch.map (·.embedding))
    ∃ outcome after later,
      addInPlace batch store session = ((outcome, after), later) ∧
      (outcome = .ok () ↔ ∀ document ∈ batch, Fits length document.embedding) ∧
      (∀ error, outcome = .error error ↔
        FirstMisfit length (batch.map (·.id)) (batch.map (·.embedding)) error) ∧
      (∀ error, outcome = .error error → after = store ∧ later = session ∧
        ∀ calls,
          let others := logged calls store session
          logged (.add batch :: calls) store session =
            (((.add batch, .refused error) :: others.1.1, others.1.2), others.2)) ∧
      ∀ (calls : List Call) (keep : Call × Reply → Bool),
        (∀ entry, keep entry = false → ∃ error, entry.2 = .refused error) →
          let run := logged calls store session
          let kept := run.1.1.filter keep
          logged (kept.map Prod.fst) store session = ((kept, run.1.2), run.2) := by
  intro length
  let run := addInPlace batch store session
  refine ⟨run.1.1, run.1.2, run.2, rfl, addInPlace_taken_iff, ?_, ?_, ?_⟩
  · intro error
    exact addInPlace_eq_error_iff.trans insert_eq_error_iff
  · intro error refused
    have kept : run = ((.error error, store), session) := addInPlace_of_refused refused
    refine ⟨by rw [kept], by rw [kept], fun calls => ?_⟩
    apply logged_cons_of_refused
    rw [perform_add, addInPlace_eq_error_iff.mp refused]
  · intro calls keep leavesRefused
    exact logged_filter leavesRefused calls store session

end MemoryStore

end Corpus
