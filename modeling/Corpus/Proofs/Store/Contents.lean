import Corpus.KeyMap.Lemmas
import Corpus.Store

/-!
# What a store holds

Adding a batch and removing identifiers are described by what every identifier gives afterwards.
-/

namespace Corpus

namespace KeyMap

variable {α : Type}

theorem isEmpty_iff (map : KeyMap α) : map.isEmpty = true ↔ ∀ key, map.get? key = none := by
  constructor
  · intro isEmpty key
    have noEntries : map.entries = [] := List.isEmpty_iff.mp isEmpty
    simp [get?, noEntries, findEntry]
  · intro absent
    have same : map = empty := ext_get? absent
    rw [same]
    rfl

theorem mem_values_iff {map : KeyMap α} {value : α} :
    value ∈ map.entries.map Prod.snd ↔ ∃ key, map.get? key = some value := by
  simp only [List.mem_map, Prod.exists, exists_eq_right, get?_eq_some_iff]

theorem get?_foldl_erase (keys : List String) (map : KeyMap α) (other : String) :
    (keys.foldl erase map).get? other = if other ∈ keys then none else map.get? other := by
  induction keys generalizing map with
  | nil => simp
  | cons key keys induction =>
    rw [List.foldl_cons, induction, get?_erase]
    by_cases same : other = key
    · simp [same]
    · simp [same]

end KeyMap

namespace MemoryStore

/-- A batch that is put gives its last document of an identifier, and leaves what it does not
name. -/
theorem get?_put (documents : KeyMap Document) (batch : List Document) (id : String) :
    (put documents batch).get? id =
      (batch.reverse.find? fun document => document.id == id).or (documents.get? id) := by
  induction batch generalizing documents with
  | nil => rfl
  | cons document batch induction =>
    have rest := induction (documents.insert document.id document)
    rw [KeyMap.get?_insert] at rest
    rw [put, List.foldl_cons, ← put, rest, List.reverse_cons, List.find?_append, Option.or_assoc]
    congr 1
    by_cases same : document.id = id
    · simp [same]
    · simp [same, Ne.symm same]

theorem get?_put_eq_some {documents : KeyMap Document} {batch : List Document} {id : String}
    {document : Document} (found : (put documents batch).get? id = some document) :
    document ∈ batch ∧ document.id = id ∨ documents.get? id = some document := by
  rw [get?_put, Option.or_eq_some_iff] at found
  rcases found with inBatch | ⟨_, before⟩
  · have sameId := List.find?_some inBatch
    have member := List.mem_of_find?_eq_some inBatch
    exact .inl ⟨List.mem_reverse.mp member, by simpa using sameId⟩
  · exact .inr before

theorem put_append (documents : KeyMap Document) (batch others : List Document) :
    put documents (batch ++ others) = put (put documents batch) others :=
  List.foldl_append ..

theorem isEmpty_put (documents : KeyMap Document) (batch : List Document) :
    (put documents batch).isEmpty = (batch.isEmpty && documents.isEmpty) := by
  cases batch with
  | nil => rfl
  | cons document batch =>
    have occupied : (put documents (document :: batch)).get? document.id ≠ none := by
      simp [get?_put]
    have notEmpty : ¬(put documents (document :: batch)).isEmpty = true := fun isEmpty =>
      occupied ((KeyMap.isEmpty_iff _).mp isEmpty document.id)
    simpa using notEmpty

end MemoryStore

end Corpus
