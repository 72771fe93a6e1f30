import Corpus.Proofs.Store.Contents

/-!
# Which batches a store takes

A store requires one length of all embeddings: its dimension, or else the length of the first
embedding of the batch.  A batch is taken if each of its embeddings fits, and is refused for the
first one that does not.  Of documents with one identifier the last one counts.
-/

namespace Corpus

namespace MemoryStore

/-- The length that a store requires of some embeddings. -/
def requiredLength (dimension : Option Nat) (embeddings : List (List Float32)) : Nat :=
  dimension.getD (embeddings.headD []).length

def Fits (length : Nat) (embedding : List Float32) : Prop :=
  embedding ≠ [] ∧ embedding.length = length

/-- Why an embedding that does not fit is refused. -/
inductive Misfit (length : Nat) (id : String) : List Float32 → StoreError → Prop where
  | missing : Misfit length id [] (.missingEmbedding id)
  | mismatch {embedding : List Float32} :
      embedding ≠ [] →
      embedding.length ≠ length →
      Misfit length id embedding (.dimensionMismatch length embedding.length)

/-- Of embeddings listed with identifiers, the first one that does not fit, by its place. -/
def FirstMisfit (length : Nat) (ids : List String) (embeddings : List (List Float32))
    (error : StoreError) : Prop :=
  ∃ (place : Nat) (id : String) (embedding : List Float32),
    ids[place]? = some id ∧ embeddings[place]? = some embedding ∧
      (∀ earlier < place, ∀ other, embeddings[earlier]? = some other → Fits length other) ∧
      Misfit length id embedding error

theorem FirstMisfit.head {length : Nat} {id : String} {embedding : List Float32}
    {error : StoreError} (misfit : Misfit length id embedding error) (ids : List String)
    (embeddings : List (List Float32)) :
    FirstMisfit length (id :: ids) (embedding :: embeddings) error :=
  ⟨0, id, embedding, rfl, rfl, fun _ before => absurd before (Nat.not_lt_zero _), misfit⟩

theorem FirstMisfit.cons {length : Nat} {id : String} {embedding : List Float32}
    {error : StoreError} {ids : List String} {embeddings : List (List Float32)}
    (fits : Fits length embedding) (later : FirstMisfit length ids embeddings error) :
    FirstMisfit length (id :: ids) (embedding :: embeddings) error := by
  obtain ⟨place, other, found, idAt, embeddingAt, earlierFit, misfit⟩ := later
  refine ⟨place + 1, other, found, idAt, embeddingAt, ?_, misfit⟩
  intro earlier before fitting fittingAt
  cases earlier with
  | zero =>
      cases fittingAt
      exact fits
  | succ earlier => exact earlierFit earlier (Nat.lt_of_succ_lt_succ before) fitting fittingAt

theorem batchDimension_some (length : Nat) (batch : List Document) :
    match batchDimension (some length) batch with
    | .ok dimension =>
        dimension = some length ∧ ∀ document ∈ batch, Fits length document.embedding
    | .error error =>
        FirstMisfit length (batch.map (·.id)) (batch.map (·.embedding)) error := by
  induction batch with
  | nil => exact ⟨rfl, by simp⟩
  | cons document batch induction =>
      by_cases missing : document.embedding = []
      · have refused : batchDimension (some length) (document :: batch) =
            .error (.missingEmbedding document.id) := by
          simp [batchDimension, missing]
        rw [refused]
        simp only [List.map_cons, missing]
        exact .head .missing _ _
      · have present : document.embedding.length ≠ 0 := by simpa using missing
        by_cases same : length = document.embedding.length
        · have fits : Fits length document.embedding := ⟨missing, same.symm⟩
          have rest : batchDimension (some length) (document :: batch) =
              batchDimension (some length) batch := by
            rw [batchDimension, if_neg present, if_pos same]
          rw [rest]
          cases checked : batchDimension (some length) batch with
          | ok dimension =>
              rw [checked] at induction
              refine ⟨induction.1, ?_⟩
              intro other member
              rcases List.mem_cons.mp member with head | later
              · exact head ▸ fits
              · exact induction.2 other later
          | error error =>
              rw [checked] at induction
              exact .cons fits induction
        · have refused : batchDimension (some length) (document :: batch) =
              .error (.dimensionMismatch length document.embedding.length) := by
            rw [batchDimension, if_neg present, if_neg same]
          rw [refused]
          exact .head (.mismatch missing (Ne.symm same)) _ _

theorem batchDimension_eq_of_cons (dimension : Option Nat) (document : Document)
    (batch : List Document) :
    batchDimension dimension (document :: batch) =
      batchDimension (some (dimension.getD document.embedding.length)) (document :: batch) := by
  cases dimension with
  | none => simp [batchDimension]
  | some length => rfl

theorem batchDimension_outcome (dimension : Option Nat) (batch : List Document) :
    match batchDimension dimension batch with
    | .ok found =>
        found = (if batch.isEmpty then dimension
          else some (requiredLength dimension (batch.map (·.embedding)))) ∧
        ∀ document ∈ batch,
          Fits (requiredLength dimension (batch.map (·.embedding))) document.embedding
    | .error error =>
        FirstMisfit (requiredLength dimension (batch.map (·.embedding)))
          (batch.map (·.id)) (batch.map (·.embedding)) error := by
  cases batch with
  | nil => exact ⟨rfl, by simp⟩
  | cons document batch =>
      rw [batchDimension_eq_of_cons]
      exact batchDimension_some _ (document :: batch)

theorem insert_outcome (store : MemoryStore) (batch : List Document) :
    match store.insert batch with
    | .ok added =>
        added.documents = put store.documents batch ∧
        added.dimension = (if batch.isEmpty then store.dimension
          else some (requiredLength store.dimension (batch.map (·.embedding)))) ∧
        ∀ document ∈ batch,
          Fits (requiredLength store.dimension (batch.map (·.embedding))) document.embedding
    | .error error =>
        FirstMisfit (requiredLength store.dimension (batch.map (·.embedding)))
          (batch.map (·.id)) (batch.map (·.embedding)) error := by
  have outcome := batchDimension_outcome store.dimension batch
  rw [insert]
  cases checked : batchDimension store.dimension batch with
  | ok dimension =>
      rw [checked] at outcome
      exact ⟨rfl, outcome⟩
  | error error =>
      rw [checked] at outcome
      exact outcome

/-- A batch whose embeddings all have one length, which the store takes, is taken. -/
theorem insert_of_lengths {store : MemoryStore} {batch : List Document} {length : Nat}
    (positive : 0 < length) (dimension : ∀ found, store.dimension = some found → found = length)
    (lengths : ∀ document ∈ batch, document.embedding.length = length) :
    ∃ added, store.insert batch = .ok added ∧ added.documents = put store.documents batch ∧
      ∀ found, added.dimension = some found → found = length := by
  have required (nonempty : batch ≠ []) :
      requiredLength store.dimension (batch.map (·.embedding)) = length := by
    cases determined : store.dimension with
    | some found => exact dimension found determined
    | none =>
        obtain ⟨document, others, rfl⟩ := List.exists_cons_of_ne_nil nonempty
        exact lengths document (List.mem_cons_self ..)
  have outcome := insert_outcome store batch
  cases inserted : store.insert batch with
  | ok added =>
      rw [inserted] at outcome
      refine ⟨added, rfl, outcome.1, ?_⟩
      intro found same
      rw [outcome.2.1] at same
      split at same
      · exact dimension found same
      · next occupied =>
        rw [required (by simpa using occupied)] at same
        exact (Option.some.inj same).symm
  | error error =>
      rw [inserted] at outcome
      obtain ⟨place, id, embedding, -, embeddingAt, -, misfit⟩ := outcome
      obtain ⟨document, member, rfl⟩ := List.mem_map.mp (List.mem_of_getElem? embeddingAt)
      have fits := lengths document member
      rw [required (List.ne_nil_of_mem member)] at misfit
      generalize document.embedding = embedding at fits misfit
      cases misfit with
      | missing => exact absurd fits (Nat.ne_of_lt positive)
      | mismatch _ differs => exact absurd fits differs

/-- What the dimension of an accepted batch says: it is the one that was expected, each embedding
has that length, which is not zero, and only a batch without documents leaves it open. -/
structure Dimensions (expected : Option Nat) (batch : List Document) (dimension : Option Nat) :
    Prop where
  kept : ∀ length, expected = some length → dimension = some length
  lengths : ∀ document ∈ batch,
    document.embedding.length ≠ 0 ∧ dimension = some document.embedding.length
  nothing : batch = [] → dimension = expected

theorem dimensions_of_batchDimension {expected dimension : Option Nat} {batch : List Document}
    (accepted : batchDimension expected batch = .ok dimension) :
    Dimensions expected batch dimension := by
  have outcome := batchDimension_outcome expected batch
  rw [accepted] at outcome
  obtain ⟨rfl, fits⟩ := outcome
  cases batch with
  | nil => exact ⟨fun _ same => same, by simp, fun _ => rfl⟩
  | cons document batch =>
      refine ⟨?_, ?_, nofun⟩
      · rintro length rfl
        rfl
      · intro other member
        have otherFits := fits other member
        refine ⟨?_, congrArg some otherFits.2.symm⟩
        simpa using otherFits.1

theorem insert_eq_ok {store added : MemoryStore} {batch : List Document}
    (accepted : store.insert batch = .ok added) :
    added.documents = put store.documents batch ∧
      Dimensions store.dimension batch added.dimension := by
  cases outcome : batchDimension store.dimension batch with
  | error error =>
      rw [insert, outcome] at accepted
      contradiction
  | ok dimension =>
      rw [insert, outcome] at accepted
      cases accepted
      exact ⟨rfl, dimensions_of_batchDimension outcome⟩

theorem get?_put_of_absent {batch : List Document} {id : String} (documents : KeyMap Document)
    (absent : ∀ document ∈ batch, document.id ≠ id) :
    (put documents batch).get? id = documents.get? id := by
  have notFound : batch.reverse.find? (fun document => document.id == id) = none := by
    simpa using absent
  rw [get?_put, notFound, Option.none_or]

/-- The last document of a batch with its identifier is what the batch puts there. -/
theorem get?_put_of_last {batch : List Document} {place : Nat} {document : Document}
    (documents : KeyMap Document) (found : batch[place]? = some document)
    (last : ∀ later > place, ∀ other, batch[later]? = some other → other.id ≠ document.id) :
    (put documents batch).get? document.id = some document := by
  induction batch generalizing documents place with
  | nil => cases found
  | cons head batch induction =>
      rw [put, List.foldl_cons, ← put]
      cases place with
      | zero =>
          cases found
          rw [get?_put_of_absent, KeyMap.get?_insert, if_pos rfl]
          intro other member
          obtain ⟨later, otherAt⟩ := List.mem_iff_getElem?.mp member
          exact last (later + 1) (Nat.succ_pos later) other otherAt
      | succ place =>
          exact induction _ found fun later after other otherAt =>
            last (later + 1) (Nat.succ_lt_succ after) other otherAt

end MemoryStore

end Corpus
