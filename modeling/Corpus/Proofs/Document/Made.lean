import Corpus.Document.Json
import Corpus.Pipeline
import Corpus.Proofs.Document.Drafting
import Corpus.Proofs.Json.Depth
import Corpus.Proofs.Session
import Corpus.Proofs.Store.Ranking
import Corpus.Proofs.Store.Reachable
import Corpus.Splitter
import Corpus.Transformer

/-!
# Documents that can be made

`Document.Made` lists every way to come by a document, `MemoryStore.FilledWith` every way to fill a
store.  Whichever way was taken, the identifier of the document is not blank.
-/

namespace Corpus

/-- The random identifiers of a session are the texts of identifiers of version 4. -/
def Session.DrawsUuids (session : Session) : Prop :=
  ∀ place, ∃ bytes : Digest.Bytes, bytes.length = 16 ∧
    session.randomId place = Uuid.text (Uuid.tagged 4 bytes)

/-- The stores that are filled with given documents. -/
inductive MemoryStore.FilledWith (given : Document → Prop) : MemoryStore → Prop where
  | empty : FilledWith given .empty
  | added {store added : MemoryStore} {batch : List Document} {session later : Session} :
      FilledWith given store → (∀ document ∈ batch, given document) →
      store.add batch session = (.ok added, later) → FilledWith given added
  | indexed {embedder : Embedder} {store added : MemoryStore} {documents : List Document}
      {session later : Session} :
      FilledWith given store → (∀ document ∈ documents, given document) →
      Pipeline.index embedder store documents session = (.ok added, later) →
      FilledWith given added
  | deleted {store : MemoryStore} (ids : List String) :
      FilledWith given store → FilledWith given (store.delete ids)

/-- The documents that are made: from their parts, by a draft, by reading, by changing or splitting
others, or by taking them out of a store that is filled with such documents. -/
inductive Document.Made : Document → Prop where
  | new {session : Session} (content : String) :
      session.DrawsUuids → Made (Document.new content session).1
  | withMetadata {session : Session} (content : String) (metadata : Metadata) :
      session.DrawsUuids → Made (Document.withMetadata content metadata session).1
  | withScheme {scheme : IdScheme} {content : String} {metadata : Metadata} {document : Document}
      {session later : Session} :
      Document.withScheme scheme content metadata session = (.ok document, later) → Made document
  | withId {id content : String} {metadata : Metadata} {document : Document} :
      Document.withId id content metadata = .ok document → Made document
  | ofParts {id content : String} {media : List Media} {metadata : Metadata}
      {document : Document} :
      Document.ofParts id content media metadata = .ok document → Made document
  | built {steps : List Draft.Step} {document : Document} {session later : Session} :
      (Draft.ofSteps steps).build session = (.ok document, later) → Made document
  | ofValue {value : Value} {document : Document} {session later : Session} :
      Document.ofValue value session = (.ok document, later) → Made document
  | ofText {text : String} {document : Document} {session later : Session} :
      Document.ofText text session = (.ok document, later) → Made document
  | setEmbedding {document : Document} (embedding : List Float32) :
      Made document → Made (document.setEmbedding embedding)
  | setFormatter {document : Document} (formatter : Formatter) :
      Made document → Made (document.setFormatter formatter)
  | setMetadata {document : Document} (metadata : Metadata) :
      Made document → Made (document.setMetadata metadata)
  | transformed {transformer : Transformer} {documents : List Document} {document : Document} :
      (∀ source ∈ documents, Made source) →
      document ∈ transformer.transform documents → Made document
  | chunk {splitter : Splitter} {parents chunks : List Document} {document : Document}
      {session later : Session} :
      splitter.splitDocuments parents session = (.ok chunks, later) →
      document ∈ chunks → Made document
  | held {given : Document → Prop} {store : MemoryStore} {id : String} {document : Document} :
      (∀ source, given source → Made source) → store.FilledWith given →
      store.get? id = some document → Made document
  | found {given : Document → Prop} {store : MemoryStore} {query : List Float32} {topK : Nat}
      {filter : Option Filter} {hits : List Hit} {hit : Hit} :
      (∀ source, given source → Made source) → store.FilledWith given →
      store.search query topK filter = .ok hits → hit ∈ hits → Made hit.document
  | retrieved {given : Document → Prop} {embedder : Embedder} {store : MemoryStore}
      {query : String} {topK : Nat} {filter : Option Filter} {hits : List Hit} {hit : Hit}
      {session later : Session} :
      (∀ source, given source → Made source) → store.FilledWith given →
      Pipeline.retrieve embedder store query topK filter session = (.ok hits, later) →
      hit ∈ hits → Made hit.document

/-- A document has the identifier, the content and the media of another one. -/
structure Document.Keeps (document later : Document) : Prop where
  id : later.id = document.id
  content : later.content = document.content
  media : later.media = document.media

theorem Document.Keeps.trans {first second third : Document} (kept : first.Keeps second)
    (after : second.Keeps third) : first.Keeps third :=
  ⟨after.id.trans kept.id, after.content.trans kept.content, after.media.trans kept.media⟩

theorem Uuid.isBlank_text (bytes : Digest.Bytes) : Text.isBlank (Uuid.text bytes) = false := by
  have dash : '-' ∈ (Uuid.text bytes).toList := by
    simp [Uuid.text]
  rw [Text.isBlank, List.all_eq_false]
  exact ⟨'-', dash, by decide⟩

theorem Document.ofParts_eq_ok {id content : String} {media : List Media} {metadata : Metadata}
    {document : Document} (made : ofParts id content media metadata = .ok document) :
    Text.isBlank id = false ∧ document = assemble id content media metadata := by
  unfold ofParts at made
  split at made
  · cases made
  · next named =>
    cases made
    exact ⟨Bool.eq_false_iff.mpr named, rfl⟩

theorem Document.named_of_ofParts {id content : String} {media : List Media}
    {metadata : Metadata} {document : Document}
    (made : ofParts id content media metadata = .ok document) :
    Text.isBlank document.id = false := by
  obtain ⟨named, same⟩ := ofParts_eq_ok made
  exact same ▸ named

/-- What is built is assembled from the parts of the draft, under an identifier that is not
blank. -/
theorem Draft.build_eq_ok {draft : Draft} {document : Document} {session later : Session}
    (built : draft.build session = (.ok document, later)) :
    ∃ id, Text.isBlank id = false ∧
      document = (Document.assemble id draft.content draft.media draft.metadata).setFormatter
        (draft.formatter.getD .standard) := by
  rw [build_run] at built
  cases refused : draft.error with
  | some error =>
    rw [refused] at built
    cases built
  | none =>
    simp only [refused] at built
    rcases chosen : draft.chooseId session with ⟨id, middle⟩
    rw [chosen] at built
    dsimp only at built
    split at built
    · cases built
    · next named =>
      cases built
      exact ⟨id, Bool.eq_false_iff.mpr named, rfl⟩

theorem Draft.named_of_build {draft : Draft} {document : Document} {session later : Session}
    (built : draft.build session = (.ok document, later)) : Text.isBlank document.id = false := by
  obtain ⟨id, named, same⟩ := build_eq_ok built
  exact same ▸ named

theorem Document.Read.build_eq_ok {read : Read} {document : Document} {session later : Session}
    (built : read.build session = (.ok document, later)) :
    ∃ id, Text.isBlank id = false ∧
      document = { assemble id read.draft.content read.draft.media read.draft.metadata with
        embedding := read.embedding
        formatter := read.draft.formatter.getD .standard } := by
  obtain ⟨drafted, middle, succeeded, finished⟩ := Session.attempt_bind_eq_ok built
  obtain ⟨id, named, same⟩ := Draft.build_eq_ok (Session.attempt_adapt_eq_ok succeeded)
  cases finished
  exact ⟨id, named, same ▸ rfl⟩

theorem Document.Read.named_of_build {read : Read} {document : Document}
    {session later : Session} (built : read.build session = (.ok document, later)) :
    Text.isBlank document.id = false := by
  obtain ⟨id, named, same⟩ := build_eq_ok built
  exact same ▸ named

namespace Splitter

variable {splitter : Splitter} {document : Document} {documents : List Document}
  {session later : Session}

theorem mem_buildChunks {parent : Document} {index : Nat} {chunks : List String}
    (built : splitter.buildChunks parent index chunks session = (.ok documents, later))
    (member : document ∈ documents) :
    ∃ draft before after, Draft.build draft before = (.ok document, after) := by
  induction chunks generalizing index documents session with
  | nil =>
      cases built
      cases member
  | cons chunk chunks induction =>
      obtain ⟨first, middle, firstBuilt, built⟩ := Session.attempt_bind_eq_ok built
      obtain ⟨others, last, othersBuilt, finished⟩ := Session.attempt_bind_eq_ok built
      cases finished
      rcases List.mem_cons.mp member with same | inOthers
      · exact ⟨_, session, middle, same ▸ firstBuilt⟩
      · exact induction othersBuilt inOthers

theorem mem_buildAll {parents : List Document}
    (built : splitter.buildAll parents session = (.ok documents, later))
    (member : document ∈ documents) :
    ∃ draft before after, Draft.build draft before = (.ok document, after) := by
  induction parents generalizing documents session with
  | nil =>
      cases built
      cases member
  | cons parent parents induction =>
      obtain ⟨chunks, middle, chunksBuilt, built⟩ := Session.attempt_bind_eq_ok built
      obtain ⟨others, last, othersBuilt, finished⟩ := Session.attempt_bind_eq_ok built
      cases finished
      rcases List.mem_append.mp member with inChunks | inOthers
      · exact mem_buildChunks chunksBuilt inChunks
      · exact induction othersBuilt inOthers

theorem mem_splitDocuments {parents : List Document}
    (split : splitter.splitDocuments parents session = (.ok documents, later))
    (member : document ∈ documents) :
    ∃ draft before after, Draft.build draft before = (.ok document, after) := by
  obtain ⟨chunks, middle, built, rest⟩ := Session.attempt_bind_eq_ok split
  obtain ⟨-, last, -, finished⟩ := Session.attempt_bind_eq_ok rest
  cases finished
  exact mem_buildAll (Session.attempt_adapt_eq_ok built) member

end Splitter

namespace MemoryStore

theorem mem_search {store : MemoryStore} {query : List Float32} {topK : Nat}
    {filter : Option Filter} {hits : List Hit} {hit : Hit}
    (searched : store.search query topK filter = .ok hits) (member : hit ∈ hits) :
    ∃ id document, store.get? id = some document ∧ document.Keeps hit.document := by
  simp only [search] at searched
  split at searched
  · cases searched
    obtain ⟨document, candidate, same⟩ := mem_rank.mp (List.mem_of_mem_take member)
    obtain ⟨id, found⟩ := KeyMap.mem_values_iff.mp (List.mem_filter.mp candidate).1
    exact ⟨id, document, found, same ▸ ⟨rfl, rfl, rfl⟩⟩
  · cases searched

theorem get?_of_add {store added : MemoryStore} {batch : List Document}
    {session later : Session} (accepted : store.add batch session = (.ok added, later))
    {id : String} {document : Document} (found : added.get? id = some document) :
    document ∈ batch ∨ store.get? id = some document := by
  rw [add_run] at accepted
  cases inserted : store.insert batch with
  | error error =>
    rw [inserted] at accepted
    cases accepted
  | ok inside =>
    rw [inserted] at accepted
    cases accepted
    rw [get?, (insert_eq_ok inserted).1] at found
    exact (get?_put_eq_some found).imp And.left fun before => before

end MemoryStore

namespace Pipeline

theorem retrieve_eq_ok {embedder : Embedder} {store : MemoryStore} {query : String} {topK : Nat}
    {filter : Option Filter} {hits : List Hit} {session later : Session}
    (retrieved : retrieve embedder store query topK filter session = (.ok hits, later)) :
    ∃ vector, store.search vector topK filter = .ok hits := by
  obtain ⟨vector, middle, -, retrieved⟩ := Session.attempt_bind_eq_ok retrieved
  obtain ⟨found, last, searched, retrieved⟩ := Session.attempt_bind_eq_ok retrieved
  obtain ⟨-, _, -, finished⟩ := Session.attempt_bind_eq_ok retrieved
  cases finished
  exact ⟨vector, congrArg Prod.fst (Session.attempt_adapt_eq_ok searched)⟩

theorem index_eq_ok {embedder : Embedder} {store added : MemoryStore} {documents : List Document}
    {session later : Session}
    (indexed : index embedder store documents session = (.ok added, later)) :
    ∃ vectors before after, store.add (attach documents vectors) before = (.ok added, after) := by
  obtain ⟨texts, _, -, indexed⟩ := Session.attempt_bind_eq_ok indexed
  obtain ⟨vectors, _, -, indexed⟩ := Session.attempt_bind_eq_ok indexed
  split at indexed
  · cases indexed
  · obtain ⟨-, _, -, indexed⟩ := Session.attempt_bind_eq_ok indexed
    exact ⟨vectors, _, later, Session.attempt_adapt_eq_ok indexed⟩

theorem exists_of_mem_attach {documents : List Document} {vectors : List (List Float32)}
    {document : Document} (member : document ∈ attach documents vectors) :
    ∃ source ∈ documents, source.Keeps document := by
  obtain ⟨⟨source, vector⟩, paired, same⟩ := List.mem_map.mp member
  exact ⟨source, (List.of_mem_zip paired).1, same ▸ ⟨rfl, rfl, rfl⟩⟩

end Pipeline

theorem Document.named_of_withMetadata {session : Session} (content : String) (metadata : Metadata)
    (draws : session.DrawsUuids) :
    Text.isBlank (withMetadata content metadata session).1.id = false := by
  obtain ⟨bytes, -, drawn⟩ := draws session.drawn
  have id : (withMetadata content metadata session).1.id = session.randomId session.drawn := rfl
  rw [id, drawn]
  exact Uuid.isBlank_text _

/-- What a store holds is what it was filled with, as far as identifier, content and media go. -/
theorem MemoryStore.FilledWith.exists_given {given : Document → Prop} {store : MemoryStore}
    (filled : store.FilledWith given) {id : String} {document : Document}
    (found : store.get? id = some document) :
    ∃ source, given source ∧ source.Keeps document := by
  induction filled with
  | empty => cases found
  | added _ allGiven accepted before =>
      rcases get?_of_add accepted found with inBatch | kept
      · exact ⟨document, allGiven document inBatch, rfl, rfl, rfl⟩
      · exact before kept
  | indexed _ allGiven indexed before =>
      obtain ⟨vectors, _, _, accepted⟩ := Pipeline.index_eq_ok indexed
      rcases get?_of_add accepted found with inBatch | kept
      · obtain ⟨source, present, same⟩ := Pipeline.exists_of_mem_attach inBatch
        exact ⟨source, allGiven source present, same⟩
      · exact before kept
  | deleted ids _ before =>
      rw [get?_delete] at found
      split at found
      · cases found
      · exact before found

theorem MemoryStore.FilledWith.exists_given_of_search {given : Document → Prop}
    {store : MemoryStore} (filled : store.FilledWith given) {query : List Float32} {topK : Nat}
    {filter : Option Filter} {hits : List Hit} {hit : Hit}
    (searched : store.search query topK filter = .ok hits) (member : hit ∈ hits) :
    ∃ source, given source ∧ source.Keeps hit.document := by
  obtain ⟨id, document, held, found⟩ := mem_search searched member
  obtain ⟨source, isGiven, kept⟩ := filled.exists_given held
  exact ⟨source, isGiven, kept.trans found⟩

/-- The identifier of a document that is made is not blank. -/
theorem Document.Made.named {document : Document} (made : document.Made) :
    Text.isBlank document.id = false := by
  induction made with
  | new content draws => exact named_of_withMetadata content .empty draws
  | withMetadata content metadata draws => exact named_of_withMetadata content metadata draws
  | withScheme succeeded =>
      obtain ⟨id, _, -, settled⟩ := Session.attempt_bind_eq_ok succeeded
      exact named_of_ofParts (congrArg Prod.fst settled)
  | withId succeeded | ofParts succeeded => exact named_of_ofParts succeeded
  | built succeeded => exact Draft.named_of_build succeeded
  | ofValue succeeded =>
      obtain ⟨read, _, -, built⟩ := Session.attempt_bind_eq_ok succeeded
      exact Read.named_of_build built
  | ofText succeeded =>
      obtain ⟨read, _, -, rest⟩ := Session.attempt_bind_eq_ok succeeded
      obtain ⟨closed, _, built, settled⟩ := Session.attempt_bind_eq_ok rest
      have ended : Decode.closing _ closed = .ok _ := congrArg Prod.fst settled
      rw [Decode.closing_eq_ok ended]
      exact Read.named_of_build built
  | setEmbedding _ _ named | setFormatter _ _ named | setMetadata _ _ named => exact named
  | transformed _ member named =>
      obtain ⟨source, present, same⟩ := List.mem_map.mp member
      exact same ▸ named source present
  | chunk split member =>
      obtain ⟨draft, _, _, built⟩ := Splitter.mem_splitDocuments split member
      exact Draft.named_of_build built
  | held _ filled found named =>
      obtain ⟨source, given, kept⟩ := filled.exists_given found
      rw [kept.id]
      exact named source given
  | found _ filled searched member named =>
      obtain ⟨source, given, kept⟩ := filled.exists_given_of_search searched member
      rw [kept.id]
      exact named source given
  | retrieved _ filled retrieved member named =>
      obtain ⟨vector, searched⟩ := Pipeline.retrieve_eq_ok retrieved
      obtain ⟨source, given, kept⟩ := filled.exists_given_of_search searched member
      rw [kept.id]
      exact named source given

end Corpus
