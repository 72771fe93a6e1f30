import Corpus.Proofs.Document.Made
import Corpus.Proofs.Pipeline.Indexing
import Corpus.Proofs.Store.InPlace

/-!
# What documents keep

The identifier, the content and the media of a document stay as they are: no change of a document,
no transformer and no use of a store touches them.  A store holds the documents that it is handed,
indexed ones with the vectors that they are given, until it is handed another document with the
same identifier or the identifier is removed.
-/

namespace Corpus

namespace MemoryStore

/-- A use of a store: a call, or documents that are indexed into it. -/
inductive Use where
  | called (call : Call)
  | indexed (embedder : Embedder) (documents : List Document)

namespace Use

/-- The documents that a use hands to the store. -/
def handed : Use → List Document
  | .called (.add batch) => batch
  | .indexed _ documents => documents
  | _ => []

/-- The identifiers that a use removes from the store. -/
def removed : Use → List String
  | .called (.delete ids) => ids
  | _ => []

def Spares (use : Use) (id : String) : Prop :=
  id ∉ use.removed ∧ ∀ document ∈ use.handed, document.id ≠ id

/-- The store in its place after a use, also after one that was refused. -/
def run (store : MemoryStore) (session : Session) : Use → MemoryStore × Session
  | .called call =>
    let ((_, after), later) := callInPlace call store session
    (after, later)
  | .indexed embedder documents =>
    let ((_, after), later) := Pipeline.indexInPlace embedder documents store session
    (after, later)

/-- What a use makes of a store: it puts nothing there but what it hands over, and leaves what it
spares. -/
structure Leaves (use : Use) (before after : MemoryStore) : Prop where
  held : ∀ id document, after.get? id = some document →
    before.get? id = some document ∨ ∃ source ∈ use.handed, source.Keeps document
  spared : ∀ id, use.Spares id → after.get? id = before.get? id

end Use

/-- The store after some uses, one after the other. -/
def useAll (store : MemoryStore) (session : Session) : List Use → MemoryStore
  | [] => store
  | use :: uses =>
    let (after, later) := use.run store session
    after.useAll later uses

namespace Use

theorem leaves_unchanged (use : Use) (store : MemoryStore) : use.Leaves store store :=
  ⟨fun _ _ found => .inl found, fun _ _ => rfl⟩

theorem leaves_of_insert {use : Use} {store added : MemoryStore} {batch : List Document}
    (inserted : store.insert batch = .ok added)
    (fromUse : ∀ document ∈ batch, ∃ source ∈ use.handed, source.Keeps document) :
    use.Leaves store added := by
  have documents := (insert_eq_ok inserted).1
  constructor
  · intro id document found
    rw [get?, documents] at found
    rcases get?_put_eq_some found with ⟨inBatch, -⟩ | before
    · exact .inr (fromUse document inBatch)
    · exact .inl before
  · rintro id ⟨-, otherIds⟩
    rw [get?, documents]
    apply get?_put_of_absent
    intro document inBatch
    obtain ⟨source, given, kept⟩ := fromUse document inBatch
    rw [kept.id]
    exact otherIds source given

theorem leaves_called (call : Call) (store : MemoryStore) (session : Session) :
    (called call).Leaves store (store.perform call session).1.2 := by
  cases call with
  | add batch =>
    rw [perform_add]
    cases inserted : store.insert batch with
    | error error => exact leaves_unchanged _ store
    | ok added =>
      exact leaves_of_insert inserted fun document inBatch =>
        ⟨document, inBatch, rfl, rfl, rfl⟩
  | delete ids =>
    constructor
    · intro id document found
      have found : (store.delete ids).get? id = some document := found
      rw [get?_delete] at found
      split at found
      · cases found
      · exact .inl found
    · rintro id ⟨notRemoved, -⟩
      exact (get?_delete store ids id).trans (if_neg notRemoved)
  | search query topK filter =>
    rw [perform_search]
    cases store.search query topK filter <;> exact leaves_unchanged _ store
  | get id => exact leaves_unchanged _ store

theorem leaves_indexed (embedder : Embedder) (documents : List Document) (store : MemoryStore)
    (session : Session) :
    (indexed embedder documents).Leaves store
      (Pipeline.indexInPlace embedder documents store session).1.2 := by
  rw [Pipeline.indexInPlace_eq, Work.exchange]
  rcases outcome : Pipeline.index embedder store documents session with ⟨error | added, later⟩
  · exact leaves_unchanged _ store
  · obtain ⟨vectors, before, _, accepted⟩ := Pipeline.index_eq_ok outcome
    rw [add_run] at accepted
    cases inserted : store.insert (Pipeline.attach documents vectors) with
    | error error =>
      rw [inserted] at accepted
      cases accepted
    | ok after =>
      rw [inserted] at accepted
      cases accepted
      exact leaves_of_insert inserted fun _ => Pipeline.exists_of_mem_attach

theorem leaves_run (use : Use) (store : MemoryStore) (session : Session) :
    use.Leaves store (use.run store session).1 := by
  cases use with
  | called call =>
    rw [run, callInPlace_eq]
    exact leaves_called call store session
  | indexed embedder documents => exact leaves_indexed embedder documents store session

end Use

/-- Whatever is held after some uses was held before, or is one of the documents that they handed
over; what all of them spare is as it was. -/
theorem useAll_leaves (uses : List Use) (store : MemoryStore) (session : Session) :
    (∀ id document, (store.useAll session uses).get? id = some document →
      store.get? id = some document ∨
        ∃ use ∈ uses, ∃ source ∈ use.handed, source.Keeps document) ∧
    (∀ id, (∀ use ∈ uses, use.Spares id) →
      (store.useAll session uses).get? id = store.get? id) := by
  induction uses generalizing store session with
  | nil => exact ⟨fun _ _ found => .inl found, fun _ _ => rfl⟩
  | cons use uses ih =>
    have first := use.leaves_run store session
    obtain ⟨held, spared⟩ := ih (use.run store session).1 (use.run store session).2
    constructor
    · intro id document found
      rcases held id document found with between | ⟨later, member, source, given, kept⟩
      · exact (first.held id document between).imp_right fun ⟨source, given, kept⟩ =>
          ⟨use, List.mem_cons_self, source, given, kept⟩
      · exact .inr ⟨later, List.mem_cons_of_mem _ member, source, given, kept⟩
    · intro id all
      rw [List.forall_mem_cons] at all
      exact (spared id all.2).trans (first.spared id all.1)

/-- The hits that a search of a store gives, for a vector or for a text. -/
inductive Finds (store : MemoryStore) : List Hit → Prop where
  | searched {query : List Float32} {topK : Nat} {filter : Option Filter} {hits : List Hit} :
      store.search query topK filter = .ok hits → Finds store hits
  | retrieved {embedder : Embedder} {text : String} {topK : Nat} {filter : Option Filter}
      {hits : List Hit} {session later : Session} :
      Pipeline.retrieve embedder store text topK filter session = (.ok hits, later) →
      Finds store hits

theorem Finds.exists_held {store : MemoryStore} {hits : List Hit} (found : store.Finds hits)
    {hit : Hit} (member : hit ∈ hits) :
    ∃ id held, store.get? id = some held ∧ held.Keeps hit.document := by
  cases found with
  | searched searched => exact mem_search searched member
  | retrieved retrieved =>
    obtain ⟨vector, searched⟩ := Pipeline.retrieve_eq_ok retrieved
    exact mem_search searched member

end MemoryStore

theorem Transformer.getElem?_transform (transformer : Transformer) {documents : List Document}
    {place : Nat} {document : Document} (found : documents[place]? = some document) :
    ∃ later, (transformer.transform documents)[place]? = some later ∧ document.Keeps later := by
  refine ⟨transformer.apply document, ?_, rfl, rfl, rfl⟩
  rw [transform, List.getElem?_map, found]
  rfl

/-- The identifier of a document that is made has a character that is not a space.  Neither a change
of the document nor a transformer touches its identifier, content or media; a store keeps it until
its identifier is removed or handed over again, and holds and finds nothing but what it was
handed. -/
theorem Document.Made.identity_kept {document : Document} (made : document.Made) :
    (∃ char ∈ document.id.toList, Text.isSpace char = false) ∧
    ((∀ embedding, document.Keeps (document.setEmbedding embedding)) ∧
      (∀ formatter, document.Keeps (document.setFormatter formatter)) ∧
      ∀ metadata, document.Keeps (document.setMetadata metadata)) ∧
    (∀ (transformer : Transformer) (documents : List Document) (place : Nat),
      documents[place]? = some document →
        ∃ later, (transformer.transform documents)[place]? = some later ∧
          document.Keeps later) ∧
    ∀ (store : MemoryStore) (session : Session) (uses : List MemoryStore.Use),
      let after := store.useAll session uses
      (∀ id, store.get? id = some document → (∀ use ∈ uses, use.Spares id) →
        after.get? id = some document) ∧
      (∀ id held, after.get? id = some held →
        store.get? id = some held ∨
          ∃ use ∈ uses, ∃ source ∈ use.handed, source.Keeps held) ∧
      ∀ hits, after.Finds hits → ∀ hit ∈ hits,
        ∃ id held, after.get? id = some held ∧ held.Keeps hit.document := by
  have named := made.named
  rw [Text.isBlank, List.all_eq_false] at named
  refine ⟨by simpa using named, ⟨fun _ => ⟨rfl, rfl, rfl⟩, fun _ => ⟨rfl, rfl, rfl⟩,
    fun _ => ⟨rfl, rfl, rfl⟩⟩, fun transformer _ _ => transformer.getElem?_transform, ?_⟩
  intro store session uses after
  obtain ⟨held, spared⟩ := MemoryStore.useAll_leaves uses store session
  refine ⟨fun id found all => ?_, held, fun _ found _ => found.exists_held⟩
  rw [spared id all, found]

theorem Document.Made.identity_kept_padded :
    let document := (assemble " d\n" "text" [] .empty).setEmbedding [1]
    let other := (assemble "d" "" [] .empty).setEmbedding [2]
    let store : MemoryStore := ⟨.singleton " d\n" document, some 1⟩
    let uses : List MemoryStore.Use := [.called (.add [other]), .called (.delete ["d", ""])]
    let session := Session.start fun _ => ""
    (∃ char ∈ document.id.toList, Text.isSpace char = false) ∧
      store.get? " d\n" = some document ∧
      (store.useAll session uses).get? " d\n" = some document := by
  intro document other store uses session
  have parts : Document.ofParts " d\n" "text" [] .empty =
      .ok (assemble " d\n" "text" [] .empty) := if_neg (by decide)
  have made : document.Made := (Made.ofParts parts).setEmbedding [1]
  obtain ⟨named, -, -, stores⟩ := made.identity_kept
  have found : store.get? " d\n" = some document := rfl
  have spared : ∀ use ∈ uses, use.Spares " d\n" := by
    have otherId : other.id ≠ " d\n" := by decide
    simp [uses, MemoryStore.Use.Spares, MemoryStore.Use.removed, MemoryStore.Use.handed, otherId]
  exact ⟨named, found, (stores store session uses).1 " d\n" found spared⟩

end Corpus
