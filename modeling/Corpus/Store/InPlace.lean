import Corpus.Store.Calls

/-!
# Stores that are changed in place

A store can be held in one place and changed there, one document after the other.  What fails on
the way keeps the changes that it has made, so a batch is checked before the first change.
-/

namespace Corpus

namespace MemoryStore

variable {ε α : Type}

/-- Work on a store that is changed in place.  Work that fails keeps what it has changed. -/
abbrev Work (ε : Type) : Type → Type := ExceptT ε (StateT MemoryStore Run)

namespace Work

/-- An attempt that leaves the store alone. -/
def beside (attempt : Attempt ε α) : Work ε α := fun store session =>
  (((attempt session).1, store), (attempt session).2)

end Work

/-- Takes a document into the place of the one that has its identifier, which is reported. -/
def putInPlace (document : Document) : Work ε Unit := do
  let store ← get
  if store.documents.contains document.id then
    Work.beside (Session.report (.replacing document.id))
  set { store with documents := store.documents.insert document.id document }

/-- Checks a batch, and then sets the dimension and puts one document after the other. -/
def addInPlace (batch : List Document) : Work StoreError Unit := do
  let store ← get
  let dimension ← Work.beside (Session.settle (batchDimension store.dimension batch))
  set { store with dimension }
  forM batch putInPlace

def eraseInPlace (id : String) : StateT MemoryStore Run Unit :=
  modify fun store => { store with documents := store.documents.erase id }

/-- Removes one document after the other, and then the dimension if none is left. -/
def deleteInPlace (ids : List String) : StateT MemoryStore Run Unit := do
  forM ids eraseInPlace
  modify fun store => if store.documents.isEmpty then { store with dimension := none } else store

def callInPlace : Call → StateT MemoryStore Run Reply
  | .add batch => do
    match ← (addInPlace batch).run with
    | .ok () => return .done
    | .error error => return .refused error
  | .delete ids => do
    deleteInPlace ids
    return .done
  | .search query topK filter => do
    match (← get).search query topK filter with
    | .ok hits => return .found hits
    | .error error => return .refused error
  | .get id => do
    return .document ((← get).get? id)

def useInPlace (calls : List Call) : StateT MemoryStore Run Unit :=
  forM calls fun call => do
    let _ ← callInPlace call

/-- Some batches one after the other, up to the first one that is refused. -/
def addAllInPlace : List (List Document) → Work StoreError Unit
  | [] => return ()
  | batch :: batches => do
    addInPlace batch
    addAllInPlace batches

end MemoryStore

end Corpus
