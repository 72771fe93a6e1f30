import Corpus.Proofs.Document.Drafting
import Corpus.Proofs.Splitter.Tiling

/-!
# How split documents are put together again

Every chunk names its parent and its position among the chunks of this parent.  The chunks that
name a parent are therefore found again among all chunks, stand in their order, and rejoin to its
content.
-/

namespace Corpus

namespace Splitter

/-- A document says that its parent has an identifier. -/
def NamesParent (id : String) (document : Document) : Prop :=
  (document.metadata.get? parentKey).bind Value.text? = some id

instance (id : String) : DecidablePred (NamesParent id) :=
  fun _ => inferInstanceAs (Decidable (_ = _))

/-- The documents that name a parent. -/
def chunksOf (parent : Document) (documents : List Document) : List Document :=
  documents.filter fun document => NamesParent parent.id document

/-- What a chunk takes over from its parent, whatever its content. -/
structure Inherits (splitter : Splitter) (parent chunk : Document) : Prop where
  parentId : chunk.metadata.get? parentKey = some (.string parent.id)
  metadata : ∀ key, key ≠ parentKey → key ≠ indexKey →
    chunk.metadata.get? key = parent.metadata.get? key
  media : chunk.media = []
  embedding : chunk.embedding = []
  formatter : chunk.formatter = if splitter.copyFormatter then parent.formatter else .standard

/-- The chunks of a parent in their order: rejoined they are its content. -/
structure SplitInto (splitter : Splitter) (parent : Document) (chunks : List Document) :
    Prop where
  contents : chunks.map (·.content) = splitter.splitText parent.content
  positions : chunks.map (·.metadata.get? indexKey) =
    (List.range chunks.length).map fun index => some (.ofNat index)
  rejoined : rejoin (min splitter.chunkOverlap (splitter.chunkSize - 1))
    (chunks.map (·.content.toList)) = parent.content.toList
  inherits : ∀ chunk ∈ chunks, splitter.Inherits parent chunk

variable {splitter : Splitter} {parent : Document}

theorem Inherits.namesParent {chunk : Document} (inherits : splitter.Inherits parent chunk) :
    NamesParent parent.id chunk := by
  rw [NamesParent, inherits.parentId]
  rfl

/-! ## Chunks that name their parents -/

theorem mem_chunksOf {document : Document} {documents : List Document} :
    document ∈ chunksOf parent documents ↔
      document ∈ documents ∧ NamesParent parent.id document := by
  simp [chunksOf]

theorem chunksOf_append (parent : Document) (chunks others : List Document) :
    chunksOf parent (chunks ++ others) = chunksOf parent chunks ++ chunksOf parent others :=
  List.filter_append ..

theorem chunksOf_eq_self {chunks : List Document}
    (named : ∀ chunk ∈ chunks, NamesParent parent.id chunk) : chunksOf parent chunks = chunks := by
  simpa [chunksOf] using named

theorem chunksOf_eq_nil {documents : List Document}
    (foreign : ∀ document ∈ documents, ∃ id, id ≠ parent.id ∧ NamesParent id document) :
    chunksOf parent documents = [] := by
  rw [chunksOf, List.filter_eq_nil_iff]
  intro document member names
  obtain ⟨id, differ, namesOther⟩ := foreign document member
  have same : some id = some parent.id := namesOther.symm.trans (of_decide_eq_true names)
  exact differ (Option.some.inj same)

/-! ## Building the chunks -/

theorem draft_eq (splitter : Splitter) (parent : Document) (index : Nat) (text : String) :
    splitter.draft parent index text =
      { Draft.blank with
        content := text
        metadata := (parent.metadata.insert parentKey (.string parent.id)).insert indexKey
          (.ofNat index)
        formatter := if splitter.copyFormatter then some parent.formatter else none } := by
  rw [draft]
  cases splitter.copyFormatter <;> rfl

theorem get?_metadata_draft (splitter : Splitter) (parent : Document) (index : Nat)
    (text key : String) :
    (splitter.draft parent index text).metadata.get? key =
      if key = indexKey then some (.ofNat index)
      else if key = parentKey then some (.string parent.id)
      else parent.metadata.get? key := by
  rw [draft_eq, KeyMap.get?_insert, KeyMap.get?_insert]

theorem inherits_assembled (splitter : Splitter) (parent : Document) (index : Nat)
    (text id : String) :
    splitter.Inherits parent ((splitter.draft parent index text).assembled id) where
  parentId := get?_metadata_draft splitter parent index text parentKey
  metadata := by
    intro key notParent notIndex
    refine (get?_metadata_draft splitter parent index text key).trans ?_
    rw [if_neg notIndex, if_neg notParent]
  media := by
    rw [draft_eq]
    rfl
  embedding := rfl
  formatter := by
    rw [draft_eq]
    cases splitter.copyFormatter <;> rfl

theorem build_draft (splitter : Splitter) (parent : Document) (index : Nat) (text : String)
    {session : Session} (named : ∀ place, Text.isBlank (session.randomId place) = false) :
    ∃ chunk later, (splitter.draft parent index text).build session = (.ok chunk, later) ∧
      later.randomId = session.randomId ∧ chunk.content = text ∧
      chunk.metadata.get? indexKey = some (.ofNat index) ∧ splitter.Inherits parent chunk := by
  have clean : (splitter.draft parent index text).error = none := congrArg (·.error) (draft_eq ..)
  have unnamed : (splitter.draft parent index text).id = none := congrArg (·.id) (draft_eq ..)
  have random : (splitter.draft parent index text).scheme = .random :=
    congrArg (·.scheme) (draft_eq ..)
  have content : (splitter.draft parent index text).content = text :=
    congrArg (·.content) (draft_eq ..)
  exact ⟨_, _, Draft.build_of_random clean unnamed random (named session.drawn), rfl, content,
    get?_metadata_draft splitter parent index text indexKey,
    inherits_assembled splitter parent index text _⟩

/-- The chunks of a parent are built in their order, whatever position the first one has. -/
theorem buildChunks_run (splitter : Splitter) (parent : Document) (index : Nat)
    (texts : List String) {session : Session}
    (named : ∀ place, Text.isBlank (session.randomId place) = false) :
    ∃ chunks later, splitter.buildChunks parent index texts session = (.ok chunks, later) ∧
      later.randomId = session.randomId ∧ chunks.map (·.content) = texts ∧
      chunks.map (·.metadata.get? indexKey) =
        (List.range' index chunks.length).map (fun place => some (.ofNat place)) ∧
      ∀ chunk ∈ chunks, splitter.Inherits parent chunk := by
  induction texts generalizing index session with
  | nil => exact ⟨[], session, rfl, rfl, rfl, rfl, List.forall_mem_nil _⟩
  | cons text texts induction =>
      obtain ⟨chunk, middle, built, kept, content, position, inherits⟩ :=
        build_draft splitter parent index text named
      have middleNamed (place : Nat) : Text.isBlank (middle.randomId place) = false :=
        kept ▸ named place
      obtain ⟨chunks, later, others, keptLater, contents, positions, inheritAll⟩ :=
        induction (index + 1) middleNamed
      refine ⟨chunk :: chunks, later, ?_, keptLater.trans kept, ?_, ?_, ?_⟩
      · rw [buildChunks, Session.attempt_bind, built]
        simp only [Session.attempt_bind, others]
        rfl
      · rw [List.map_cons, content, contents]
      · rw [List.map_cons, position, positions, List.length_cons, List.range'_succ, List.map_cons]
      · exact List.forall_mem_cons.mpr ⟨inherits, inheritAll⟩

theorem splitInto_of_contents (positive : 1 ≤ splitter.chunkSize) {chunks : List Document}
    (contents : chunks.map (·.content) = splitter.splitText parent.content)
    (positions : chunks.map (·.metadata.get? indexKey) =
      (List.range chunks.length).map fun index => some (.ofNat index))
    (inherits : ∀ chunk ∈ chunks, splitter.Inherits parent chunk) :
    splitter.SplitInto parent chunks := by
  refine ⟨contents, positions, ?_, inherits⟩
  have splits : splitter.chunkSize ≠ 0 := by omega
  have ahead : 0 < splitter.step := Nat.le_max_left ..
  have texts : chunks.map (·.content.toList) = splitter.chunks parent.content.toList := by
    rw [← map_toList_splitText, ← contents, List.map_map]
    rfl
  rw [texts, Splitter.chunks, if_neg splits]
  exact (windows_windows ahead le_rfl).rejoin_eq (step_add_overlap positive) ahead

/-- All documents that come out of parents with different identifiers: each parent's chunks, found
by its identifier, in the order of the parents. -/
theorem buildAll_run (positive : 1 ≤ splitter.chunkSize) {parents : List Document}
    (distinct : parents.Pairwise fun parent other => parent.id ≠ other.id) {session : Session}
    (named : ∀ place, Text.isBlank (session.randomId place) = false) :
    ∃ documents later, splitter.buildAll parents session = (.ok documents, later) ∧
      documents = parents.flatMap (chunksOf · documents) ∧
      ∀ parent ∈ parents, splitter.SplitInto parent (chunksOf parent documents) := by
  induction parents generalizing session with
  | nil => exact ⟨[], session, rfl, rfl, List.forall_mem_nil _⟩
  | cons parent parents induction =>
      rw [List.pairwise_cons] at distinct
      obtain ⟨chunks, middle, built, kept, contents, positions, inherits⟩ :=
        buildChunks_run splitter parent 0 (splitter.splitText parent.content) named
      have middleNamed (place : Nat) : Text.isBlank (middle.randomId place) = false :=
        kept ▸ named place
      obtain ⟨others, later, othersBuilt, concatenated, split⟩ :=
        induction distinct.2 middleNamed
      rw [← List.range_eq_range'] at positions
      have own : chunksOf parent (chunks ++ others) = chunks := by
        have named (chunk : Document) (member : chunk ∈ chunks) : NamesParent parent.id chunk :=
          (inherits chunk member).namesParent
        have foreign (document : Document) (member : document ∈ others) :
            ∃ id, id ≠ parent.id ∧ NamesParent id document := by
          rw [concatenated, List.mem_flatMap] at member
          obtain ⟨other, known, member⟩ := member
          exact ⟨other.id, (distinct.1 other known).symm, (mem_chunksOf.mp member).2⟩
        rw [chunksOf_append, chunksOf_eq_self named, chunksOf_eq_nil foreign, List.append_nil]
      have same (other : Document) (known : other ∈ parents) :
          chunksOf other (chunks ++ others) = chunksOf other others := by
        have foreign (chunk : Document) (member : chunk ∈ chunks) :
            ∃ id, id ≠ other.id ∧ NamesParent id chunk :=
          ⟨parent.id, distinct.1 other known, (inherits chunk member).namesParent⟩
        rw [chunksOf_append, chunksOf_eq_nil foreign, List.nil_append]
      refine ⟨chunks ++ others, later, ?_, ?_, ?_⟩
      · rw [buildAll, Session.attempt_bind, built]
        simp only [Session.attempt_bind, othersBuilt]
        rfl
      · rw [List.flatMap_cons, own, List.flatMap_congr same, ← concatenated]
      · rw [List.forall_mem_cons, own]
        refine ⟨splitInto_of_contents positive contents positions inherits, ?_⟩
        intro other known
        rw [same other known]
        exact split other known

/-- Splitting documents succeeds and loses nothing.  The chunks come in the order of their parents,
and those of a parent are found again by its identifier, in the order of their positions; they
inherit from it, and rejoined they are its content. -/
theorem splitDocuments_reassemble (splitter : Splitter) (positive : 1 ≤ splitter.chunkSize)
    (parents : List Document)
    (distinct : parents.Pairwise fun parent other => parent.id ≠ other.id) (session : Session)
    (named : ∀ place, Text.isBlank (session.randomId place) = false) :
    ∃ documents later, splitter.splitDocuments parents session = (.ok documents, later) ∧
      documents = parents.flatMap (chunksOf · documents) ∧
      ∀ parent ∈ parents, splitter.SplitInto parent (chunksOf parent documents) := by
  obtain ⟨documents, later, built, concatenated, split⟩ := buildAll_run positive distinct named
  refine ⟨documents, later.reporting [.split parents.length documents.length], ?_, concatenated,
    split⟩
  rw [splitDocuments, Session.attempt_bind, Session.attempt_adapt, built]
  simp only [Except.mapError, Session.attempt_bind, Session.attempt_report]
  rfl

theorem splitDocuments_reassemble_again :
    let metadata : Metadata := .ofList
      [("", .null), (parentKey, .string "second"), (indexKey, .string "7")]
    let first := Document.assemble "first" "abcdef" [] metadata
    let second := Document.assemble "second" "" [] .empty
    let session := Session.start fun _ => "chunk"
    ∃ documents later, (⟨4, 9, true⟩ : Splitter).splitDocuments [first, second] session =
        (.ok documents, later) ∧
      documents = chunksOf first documents ∧
      documents.map (·.content) = ["abcd", "bcde", "cdef"] ∧
      documents.map (·.metadata.get? indexKey) =
        [some (.ofNat 0), some (.ofNat 1), some (.ofNat 2)] ∧
      ∀ document ∈ documents, document.metadata.get? "" = some .null := by
  intro metadata first second session
  have distinct : [first, second].Pairwise fun parent other => parent.id ≠ other.id := by
    simp [first, second, Document.assemble]
  have named (place : Nat) : Text.isBlank (session.randomId place) = false := by
    simp only [session, Session.start]
    decide
  obtain ⟨documents, later, split, concatenated, into⟩ :=
    splitDocuments_reassemble ⟨4, 9, true⟩ (by decide) [first, second] distinct session named
  rw [List.forall_mem_cons, List.forall_mem_singleton] at into
  have noSecond : chunksOf second documents = [] := List.map_eq_nil_iff.mp into.2.contents
  have own : chunksOf first documents = documents := by
    conv_rhs => rw [concatenated]
    simp [noSecond]
  rw [own] at into
  have contents : documents.map (·.content) = ["abcd", "bcde", "cdef"] := by
    rw [into.1.contents]
    decide +kernel
  refine ⟨documents, later, split, own.symm, contents, ?_, ?_⟩
  · have length : documents.length = 3 := by
      simpa using congrArg List.length contents
    rw [into.1.positions, length]
    rfl
  · intro document member
    exact (into.1.inherits document member).metadata "" (by decide) (by decide)

end Splitter

end Corpus
