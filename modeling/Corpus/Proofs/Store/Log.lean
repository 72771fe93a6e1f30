import Corpus.Proofs.Store.InPlace

/-!
# The log of a store

The log of a store lists the calls that were made to it with what they gave back.  A store that was
empty holds the last write of every identifier and nothing else: of the last batch that was taken
and names the identifier, the last document with it, unless it was removed since.  Of a batch that
is taken, each document either adds to the size of the store or is reported as a replacement.
-/

namespace Corpus

namespace MemoryStore

/-- Some item of a list is as asked, and no item behind it overrides it. -/
def Lasting {α : Type} (asked overrides : α → Prop) (items : List α) : Prop :=
  ∃ (place : Nat) (item : α), items[place]? = some item ∧ asked item ∧
    ∀ later > place, ∀ other, items[later]? = some other → ¬overrides other

/-- A document is the last one of a batch with an identifier. -/
def LastNamed (id : String) (document : Document) (batch : List Document) : Prop :=
  Lasting (fun other => other = document ∧ other.id = id) (fun other => other.id = id) batch

/-- The calls that decide what an identifier gives: a batch that was taken and names it, and a
removal that lists it. -/
inductive Touches (id : String) : Call × Reply → Prop where
  | added {batch : List Document} {document : Document} :
      document ∈ batch → document.id = id → Touches id (.add batch, .done)
  | deleted {ids : List String} {reply : Reply} : id ∈ ids → Touches id (.delete ids, reply)

/-- The calls that leave a document under an identifier. -/
inductive Writes (id : String) (document : Document) : Call × Reply → Prop where
  | added {batch : List Document} :
      LastNamed id document batch → Writes id document (.add batch, .done)

/-- A document is the last write of an identifier in a log. -/
def LastWrite (id : String) (document : Document) (log : List (Call × Reply)) : Prop :=
  Lasting (Writes id document) (Touches id) log

/-- Makes some calls to a store in its place and logs what they give back. -/
def logged : List Call → StateT MemoryStore Run (List (Call × Reply))
  | [] => return []
  | call :: calls => do
    let reply ← callInPlace call
    let log ← logged calls
    return (call, reply) :: log

section

variable {α : Type} {asked overrides : α → Prop}

theorem not_lasting_nil : ¬Lasting asked overrides [] := by
  rintro ⟨place, item, found, _⟩
  cases found

theorem lasting_cons {item : α} {items : List α} :
    Lasting asked overrides (item :: items) ↔
      Lasting asked overrides items ∨ asked item ∧ ∀ other ∈ items, ¬overrides other := by
  constructor
  · rintro ⟨place, other, found, isAsked, kept⟩
    cases place with
    | zero =>
        cases found
        refine .inr ⟨isAsked, fun later member => ?_⟩
        obtain ⟨behind, laterAt⟩ := List.mem_iff_getElem?.mp member
        exact kept (behind + 1) (Nat.succ_pos behind) later laterAt
    | succ place =>
        exact .inl ⟨place, other, found, isAsked, fun later after =>
          kept (later + 1) (Nat.succ_lt_succ after)⟩
  · rintro (⟨place, other, found, isAsked, kept⟩ | ⟨isAsked, kept⟩)
    · refine ⟨place + 1, other, found, isAsked, fun later after behind laterAt => ?_⟩
      cases later with
      | zero => exact absurd after (Nat.not_lt_zero _)
      | succ later => exact kept later (Nat.lt_of_succ_lt_succ after) behind laterAt
    · refine ⟨0, item, rfl, isAsked, fun later after behind laterAt => ?_⟩
      cases later with
      | zero => exact absurd after (Nat.lt_irrefl 0)
      | succ later => exact kept behind (List.mem_of_getElem? laterAt)

end

theorem lastNamed_cons {id : String} {document head : Document} {batch : List Document} :
    LastNamed id document (head :: batch) ↔
      LastNamed id document batch ∨
        (head = document ∧ head.id = id) ∧ ∀ other ∈ batch, other.id ≠ id :=
  lasting_cons

theorem LastNamed.mem {id : String} {document : Document} {batch : List Document}
    (last : LastNamed id document batch) : document ∈ batch ∧ document.id = id := by
  obtain ⟨place, _, found, ⟨rfl, named⟩, -⟩ := last
  exact ⟨List.mem_of_getElem? found, named⟩

theorem lastNamed_map {change : Document → Document}
    (kept : ∀ document, (change document).id = document.id) {id : String} {found : Document}
    {batch : List Document} :
    LastNamed id found (batch.map change) ↔
      ∃ document, LastNamed id document batch ∧ change document = found := by
  induction batch with
  | nil => simp [LastNamed, not_lasting_nil]
  | cons head batch induction =>
      simp only [List.map_cons, lastNamed_cons, induction, List.forall_mem_map, kept]
      constructor
      · rintro (⟨document, last, same⟩ | ⟨⟨same, named⟩, unnamed⟩)
        · exact ⟨document, .inl last, same⟩
        · exact ⟨head, .inr ⟨⟨rfl, named⟩, unnamed⟩, same⟩
      · rintro ⟨document, last | ⟨⟨rfl, named⟩, unnamed⟩, same⟩
        · exact .inl ⟨document, last, same⟩
        · exact .inr ⟨⟨same, named⟩, unnamed⟩

/-- Under an identifier stands the last document of the batch with it, or what stood there if the
batch does not name it. -/
theorem get?_put_eq_some_iff {documents : KeyMap Document} {batch : List Document} {id : String}
    {document : Document} :
    (put documents batch).get? id = some document ↔
      LastNamed id document batch ∨
        (∀ other ∈ batch, other.id ≠ id) ∧ documents.get? id = some document := by
  induction batch generalizing documents with
  | nil => simp [put, LastNamed, not_lasting_nil]
  | cons head batch induction =>
      rw [put, List.foldl_cons, ← put, induction, KeyMap.get?_insert, lastNamed_cons, or_assoc]
      by_cases named : head.id = id
      · subst named
        simp [and_comm]
      · simp [named, Ne.symm named]

theorem writes_add_iff {id : String} {document : Document} {batch : List Document}
    {reply : Reply} :
    Writes id document (.add batch, reply) ↔ reply = .done ∧ LastNamed id document batch := by
  constructor
  · intro written
    cases written with
    | added last => exact ⟨rfl, last⟩
  · rintro ⟨rfl, last⟩
    exact .added last

theorem touches_add_iff {id : String} {batch : List Document} {reply : Reply} :
    Touches id (.add batch, reply) ↔ reply = .done ∧ ∃ document ∈ batch, document.id = id := by
  constructor
  · intro touched
    cases touched with
    | added member named => exact ⟨rfl, _, member, named⟩
  · rintro ⟨rfl, document, member, named⟩
    exact .added member named

theorem touches_delete_iff {id : String} {ids : List String} {reply : Reply} :
    Touches id (.delete ids, reply) ↔ id ∈ ids := by
  constructor
  · intro touched
    cases touched with
    | deleted listed => exact listed
  · exact .deleted

/-- After a call an identifier gives what the call writes, or what it gave before if the call does
not touch it. -/
theorem get?_perform {store : MemoryStore} {call : Call} {session : Session} {id : String}
    {document : Document} :
    (store.perform call session).1.2.get? id = some document ↔
      Writes id document (call, (store.perform call session).1.1) ∨
        ¬Touches id (call, (store.perform call session).1.1) ∧
          store.get? id = some document := by
  cases call with
  | add batch =>
      rw [perform_add]
      cases inserted : store.insert batch with
      | error error => simp [writes_add_iff, touches_add_iff]
      | ok added =>
          rw [get?, (insert_eq_ok inserted).1, get?_put_eq_some_iff]
          simp [writes_add_iff, touches_add_iff, get?]
  | delete ids =>
      have performed : (store.perform (.delete ids) session).1 = (.done, store.delete ids) := rfl
      have notWritten : ¬Writes id document (.delete ids, .done) := by
        intro written
        cases written
      rw [performed, get?_delete]
      simp [notWritten, touches_delete_iff]
  | search query topK filter =>
      have kept : (store.perform (.search query topK filter) session).1.2 = store := by
        rw [perform_search]
        cases store.search query topK filter <;> rfl
      have notWritten (reply : Reply) :
          ¬Writes id document (.search query topK filter, reply) := by
        intro written
        cases written
      have untouched (reply : Reply) : ¬Touches id (.search query topK filter, reply) := by
        intro touched
        cases touched
      simp [kept, notWritten, untouched]
  | get other =>
      have kept : (store.perform (.get other) session).1.2 = store := rfl
      have notWritten (reply : Reply) : ¬Writes id document (.get other, reply) := by
        intro written
        cases written
      have untouched (reply : Reply) : ¬Touches id (.get other, reply) := by
        intro touched
        cases touched
      simp [kept, notWritten, untouched]

theorem logged_cons (call : Call) (calls : List Call) (store : MemoryStore) (session : Session) :
    logged (call :: calls) store session =
      let first := store.perform call session
      let others := logged calls first.1.2 first.2
      (((call, first.1.1) :: others.1.1, others.1.2), others.2) := by
  simp only [logged, bind, StateT.bind, callInPlace_eq]
  rfl

theorem map_fst_logged (calls : List Call) (store : MemoryStore) (session : Session) :
    (logged calls store session).1.1.map Prod.fst = calls := by
  induction calls generalizing store session with
  | nil => rfl
  | cons call calls induction =>
      rw [logged_cons]
      exact congrArg (call :: ·) (induction _ _)

/-- After some calls an identifier gives the last write of their log, or what it gave before if
nothing in the log touches it. -/
theorem get?_logged {calls : List Call} {store : MemoryStore} {session : Session} {id : String}
    {document : Document} :
    (logged calls store session).1.2.get? id = some document ↔
      LastWrite id document (logged calls store session).1.1 ∨
        (∀ entry ∈ (logged calls store session).1.1, ¬Touches id entry) ∧
          store.get? id = some document := by
  induction calls generalizing store session with
  | nil =>
      have run : logged [] store session = (([], store), session) := rfl
      simp [run, LastWrite, not_lasting_nil]
  | cons call calls induction =>
      rw [logged_cons]
      simp only [induction, get?_perform, LastWrite, lasting_cons, List.forall_mem_cons]
      constructor
      · rintro (later | ⟨untouched, written | ⟨kept, before⟩⟩)
        · exact .inl (.inl later)
        · exact .inl (.inr ⟨written, untouched⟩)
        · exact .inr ⟨⟨kept, untouched⟩, before⟩
      · rintro ((later | ⟨written, untouched⟩) | ⟨⟨kept, untouched⟩, before⟩)
        · exact .inl later
        · exact .inr ⟨untouched, .inl written⟩
        · exact .inr ⟨untouched, .inr ⟨kept, before⟩⟩

theorem size_put_add_replaced (documents : KeyMap Document) (batch : List Document) :
    (put documents batch).size + (replaced documents batch).length =
      documents.size + batch.length := by
  induction batch generalizing documents with
  | nil => rfl
  | cons document batch induction =>
      have others := induction (documents.insert document.id document)
      rw [KeyMap.size_insert] at others
      rw [put, List.foldl_cons, ← put, replaced, List.length_cons]
      split
      · next occupied =>
        rw [if_pos occupied] at others
        rw [List.length_cons]
        omega
      · next vacant =>
        rw [if_neg vacant] at others
        omega

/-- Adding a batch that is taken reports one replacement for each document that adds nothing to the
size of the store. -/
theorem callInPlace_add_size {batch : List Document} {store after : MemoryStore}
    {session later : Session}
    (taken : callInPlace (.add batch) store session = ((.done, after), later)) :
    ∃ ids : List String, later = session.reporting (ids.map Event.replacing) ∧
      after.size + ids.length = store.size + batch.length := by
  rw [callInPlace_eq, perform_add] at taken
  cases inserted : store.insert batch with
  | error error =>
      rw [inserted] at taken
      cases taken
  | ok added =>
      rw [inserted] at taken
      cases taken
      refine ⟨replaced store.documents batch, rfl, ?_⟩
      rw [size, (insert_eq_ok inserted).1]
      exact size_put_add_replaced store.documents batch

/-- Whatever calls are made to an empty store, refused ones among them, each identifier then gives
the last document with it in the last batch that was taken and names it, and nothing if there is no
such batch or a later call removes the identifier.  The size of the store is the number of
identifiers with a last write, and a batch that is taken next makes it greater by one for each of
its documents that is not reported as a replacement. -/
theorem lastWrite_stands (calls : List Call) (session : Session) :
    ∃ log store later,
      logged calls .empty session = ((log, store), later) ∧
      log.map Prod.fst = calls ∧
      (∀ id document, store.get? id = some document ↔ LastWrite id document log) ∧
      (∃ ids : List String, ids.Nodup ∧
        (∀ id, id ∈ ids ↔ ∃ document, LastWrite id document log) ∧ store.size = ids.length) ∧
      ∀ batch after ended,
        callInPlace (.add batch) store later = ((.done, after), ended) →
        ∃ emitted : List Event, ended.events = later.events ++ emitted.toArray ∧
          (∀ event ∈ emitted, event.message = "replacing stored document") ∧
          after.size + emitted.length = store.size + batch.length := by
  have gives (id : String) (document : Document) :
      (logged calls .empty session).1.2.get? id = some document ↔
        LastWrite id document (logged calls .empty session).1.1 := by
    have absent : ¬MemoryStore.empty.get? id = some document := nofun
    simp [get?_logged, absent]
  refine ⟨_, _, _, rfl, map_fst_logged .., gives, ?_, ?_⟩
  · refine ⟨(logged calls .empty session).1.2.documents.keys, KeyMap.nodup_keys _, ?_, ?_⟩
    · intro id
      rw [KeyMap.mem_keys_iff]
      exact exists_congr (gives id)
    · rw [KeyMap.keys, List.length_map]
      rfl
  · intro batch after ended taken
    obtain ⟨ids, reported, sizes⟩ := callInPlace_add_size taken
    refine ⟨ids.map Event.replacing, ?_, ?_, ?_⟩
    · rw [reported]
      rfl
    · simp [Event.message]
    · rwa [List.length_map]

/-- A document of given identifier and content with an embedding of length one. -/
def noted (id content : String) : Document :=
  (Document.assemble id content [] .empty).setEmbedding [1]

/-- An identifier is overwritten, another one is removed, and a batch without embedding is refused;
of the next batch two documents replace others and one is new. -/
theorem lastWrite_stands_overwritten :
    let session := Session.start fun _ => ""
    let unembedded := (noted "a" "lost").setEmbedding []
    let run := logged [.add [noted "a" "first", noted "b" "", noted "a" "second"],
      .add [unembedded], .delete ["b"]] .empty session
    let batch := [noted "c" "", noted "a" "third", noted "c" "again"]
    LastWrite "a" (noted "a" "second") run.1.1 ∧
      (∀ document, ¬LastWrite "b" document run.1.1) ∧
      ∃ after ended, callInPlace (.add batch) run.1.2 run.2 = ((.done, after), ended) ∧
        ∃ emitted : List Event, ended.events = run.2.events ++ emitted.toArray ∧
          after.size + emitted.length = run.1.2.size + 3 := by
  intro session unembedded run batch
  obtain ⟨log, store, later, made, -, gives, -, adds⟩ := lastWrite_stands
    [.add [noted "a" "first", noted "b" "", noted "a" "second"], .add [unembedded],
      .delete ["b"]] session
  have logIs : run.1.1 = log := congrArg (·.1.1) made
  have storeIs : run.1.2 = store := congrArg (·.1.2) made
  have sessionIs : run.2 = later := congrArg (·.2) made
  subst logIs storeIs sessionIs
  refine ⟨(gives _ _).mp rfl, ?_, ?_⟩
  · intro document last
    cases (gives "b" document).mpr last
  · obtain ⟨emitted, reported, -, sizes⟩ := adds batch _ _ rfl
    exact ⟨_, _, rfl, emitted, reported, sizes⟩

end MemoryStore

end Corpus
