import Corpus.Store

/-!
# Calls to a store

A store in memory is used by calls, one after the other, and starts out empty.  A call that is
refused leaves the store as it is.
-/

namespace Corpus

namespace MemoryStore

/-- A call to a store. -/
inductive Call where
  | add (batch : List Document)
  | delete (ids : List String)
  | search (query : List Float32) (topK : Nat) (filter : Option Filter)
  | get (id : String)

/-- What a call gives back. -/
inductive Reply where
  | done
  | refused (error : StoreError)
  | found (hits : List Hit)
  | document (document : Option Document)

/-- What a call gives back, and the store after it. -/
def perform (store : MemoryStore) : Call → Run (Reply × MemoryStore)
  | .add batch => do
    match ← (store.add batch).run with
    | .ok added => return (.done, added)
    | .error error => return (.refused error, store)
  | .delete ids => return (.done, store.delete ids)
  | .search query topK filter =>
    match store.search query topK filter with
    | .ok hits => return (.found hits, store)
    | .error error => return (.refused error, store)
  | .get id => return (.document (store.get? id), store)

def performAll (store : MemoryStore) : List Call → Run MemoryStore
  | [] => return store
  | call :: calls => do
    let (_, next) ← store.perform call
    next.performAll calls

end MemoryStore

end Corpus
