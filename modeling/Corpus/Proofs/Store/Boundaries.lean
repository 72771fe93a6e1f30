import Corpus.Proofs.Store.InPlace

/-!
# Where a batch ends

A store takes some documents as one batch exactly if it takes them cut into batches, one after the
other, and then holds the same: the length that the first documents of a batch set acts like the
dimension that they leave when they are a batch of their own.  Where it refuses them, the error is
the same, but only the one batch is refused as a whole.
-/

namespace Corpus

namespace MemoryStore

theorem batchDimension_append (dimension : Option Nat) (first second : List Document) :
    batchDimension dimension (first ++ second) =
      batchDimension dimension first >>= fun between => batchDimension between second := by
  suffices required : ∀ length, batchDimension (some length) (first ++ second) =
      batchDimension (some length) first >>= fun between => batchDimension between second by
    cases dimension with
    | some length => exact required length
    | none =>
        cases first with
        | nil => rfl
        | cons document first =>
            rw [List.cons_append, batchDimension_eq_of_cons none, batchDimension_eq_of_cons none]
            exact required _
  intro length
  induction first with
  | nil => rfl
  | cons document first induction =>
      by_cases missing : document.embedding.length = 0
      · simp only [List.cons_append, batchDimension, missing, if_true]
        rfl
      · by_cases same : length = document.embedding.length
        · simpa only [List.cons_append, batchDimension, if_neg missing, if_pos same] using induction
        · simp only [List.cons_append, batchDimension, if_neg missing, if_neg same]
          rfl

theorem insert_append (store : MemoryStore) (first second : List Document) :
    store.insert (first ++ second) =
      store.insert first >>= fun between => between.insert second := by
  simp only [insert, batchDimension_append, put_append]
  cases batchDimension store.dimension first <;> rfl

theorem replaced_append (documents : KeyMap Document) (first second : List Document) :
    replaced documents (first ++ second) =
      replaced documents first ++ replaced (put documents first) second := by
  induction first generalizing documents with
  | nil => rfl
  | cons document first induction =>
      simp only [List.cons_append, replaced, induction, put, List.foldl_cons]
      split <;> rfl

/-- Two runs have one outcome and, unless it is a refusal, leave the same store and session. -/
structure Agree (apart joined : (Except StoreError Unit × MemoryStore) × Session) : Prop where
  outcome : apart.1.1 = joined.1.1
  taken : joined.1.1 = .ok () → apart = joined

theorem Agree.refl (run : (Except StoreError Unit × MemoryStore) × Session) : Agree run run :=
  ⟨rfl, fun _ => rfl⟩

theorem Agree.trans {first second third : (Except StoreError Unit × MemoryStore) × Session}
    (left : Agree first second) (right : Agree second third) : Agree first third where
  outcome := left.outcome.trans right.outcome
  taken accepted := (left.taken (right.outcome.trans accepted)).trans (right.taken accepted)

section

variable {store between : MemoryStore} {session middle : Session} {first : List Document}
  {error : StoreError}

/-- Behind documents that the store takes, others are taken or refused as they are by the store that
these leave. -/
theorem agree_append_of_taken
    (taken : addInPlace first store session = ((.ok (), between), middle))
    (second : List Document) :
    Agree (addInPlace second between middle) (addInPlace (first ++ second) store session) := by
  obtain ⟨inserted, rfl⟩ := addInPlace_eq_ok_iff.mp taken
  have joined : store.insert (first ++ second) = between.insert second := by
    rw [insert_append, inserted]
    rfl
  have documents : between.documents = put store.documents first := (insert_eq_ok inserted).1
  rw [addInPlace_run, addInPlace_run, joined, documents]
  cases between.insert second with
  | error error => exact ⟨rfl, fun impossible => by cases impossible⟩
  | ok after =>
      simp only [replaced_append, List.map_append, Session.reporting_reporting]
      exact .refl _

theorem addInPlace_append_of_refused
    (refused : (addInPlace first store session).1.1 = .error error) (second : List Document) :
    addInPlace (first ++ second) store session = addInPlace first store session := by
  have inserted := addInPlace_eq_error_iff.mp refused
  have joined : store.insert (first ++ second) = .error error := by
    rw [insert_append, inserted]
    rfl
  rw [addInPlace_run, addInPlace_run, joined, inserted]

end

/-- Batches come to what all their documents come to as one batch; only what the batches in front of
a refused one have left is not taken back. -/
theorem agree_addAllInPlace (batches : List (List Document)) (store : MemoryStore)
    (session : Session) :
    Agree (addAllInPlace batches store session) (addInPlace batches.flatten store session) := by
  induction batches generalizing store session with
  | nil =>
      have nothing : addInPlace [] store session = ((.ok (), store), session.reporting []) := rfl
      rw [List.flatten_nil, nothing, Session.reporting_nil]
      exact .refl _
  | cons batch batches induction =>
      rw [List.flatten_cons, addAllInPlace, Work.bind_run]
      rcases first : addInPlace batch store session with ⟨⟨error | _, between⟩, middle⟩
      · rw [addInPlace_append_of_refused (by rw [first]), first]
        exact .refl _
      · exact (induction between middle).trans (agree_append_of_taken first _)

/-- Documents are taken as one batch exactly if the first ones are and the others are by the store
that these leave; both ways then end the same.  Otherwise the error is that of the first of the two
batches that is refused.  Hence it makes no difference into how many batches they are cut. -/
theorem addInPlace_append (store : MemoryStore) (first second : List Document)
    (session : Session) :
    (∀ after later, addInPlace (first ++ second) store session = ((.ok (), after), later) ↔
      ∃ between middle, addInPlace first store session = ((.ok (), between), middle) ∧
        addInPlace second between middle = ((.ok (), after), later)) ∧
    (∀ error, (addInPlace (first ++ second) store session).1.1 = .error error ↔
      (addInPlace first store session).1.1 = .error error ∨
        ∃ between middle, addInPlace first store session = ((.ok (), between), middle) ∧
          (addInPlace second between middle).1.1 = .error error) ∧
    ∀ batches : List (List Document), batches.flatten = first ++ second →
      Agree (addAllInPlace batches store session)
        (addInPlace (first ++ second) store session) := by
  refine ⟨?_, ?_, fun batches flat => flat ▸ agree_addAllInPlace batches store session⟩
  · intro after later
    constructor
    · intro joined
      rcases taken : addInPlace first store session with ⟨⟨error | _, between⟩, middle⟩
      · rw [addInPlace_append_of_refused (by rw [taken]), taken] at joined
        cases joined
      · have agree := agree_append_of_taken taken second
        exact ⟨between, middle, rfl, (agree.taken (by rw [joined])).trans joined⟩
    · rintro ⟨between, middle, taken, others⟩
      have agree := agree_append_of_taken taken second
      rw [← agree.taken (agree.outcome.symm.trans (by rw [others])), others]
  · intro error
    constructor
    · intro joined
      rcases taken : addInPlace first store session with ⟨⟨refusal | _, between⟩, middle⟩
      · rw [addInPlace_append_of_refused (by rw [taken]), taken] at joined
        exact .inl joined
      · exact .inr ⟨between, middle, rfl,
          (agree_append_of_taken taken second).outcome.trans joined⟩
    · rintro (refused | ⟨between, middle, taken, others⟩)
      · rw [addInPlace_append_of_refused refused, refused]
      · exact (agree_append_of_taken taken second).outcome.symm.trans others

end MemoryStore

end Corpus
