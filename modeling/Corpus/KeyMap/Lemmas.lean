import Corpus.KeyMap.Basic

/-!
# What maps give back

Every operation on a map is described by what its keys give afterwards, and two maps whose keys
give the same are equal.
-/

namespace Corpus

namespace KeyMap

variable {α : Type}

theorem findEntry_insertEntry (key other : String) (value : α) (entries : List (String × α)) :
    findEntry other (insertEntry key value entries) =
      if other = key then some value else findEntry other entries := by
  induction entries with
  | nil => rfl
  | cons head rest induction =>
    unfold insertEntry
    split
    · rfl
    · split
      · next equal => by_cases same : other = key <;> simp [findEntry, ← equal, same]
      · next different =>
        by_cases same : other = head.1
        · simp [findEntry, same, Ne.symm different]
        · simp [findEntry, same, induction]

/-- A key above all others is set at the end. -/
theorem insertEntry_of_below {key : String} {value : α} {entries : List (String × α)}
    (below : ∀ entry ∈ entries, entry.1 < key) :
    insertEntry key value entries = entries ++ [(key, value)] := by
  induction entries with
  | nil => rfl
  | cons head rest induction =>
    have headBelow := below head (List.mem_cons_self ..)
    have restBelow := induction fun entry member => below entry (List.mem_cons_of_mem _ member)
    have notAbove : ¬key < head.1 := String.lt_asymm headBelow
    have different : key ≠ head.1 := fun same => String.lt_irrefl _ (same ▸ headBelow)
    simp [insertEntry, notAbove, different, restBelow]

theorem findEntry_eq_some_iff {entries : List (String × α)} {key : String} {value : α}
    (sorted : entries.Pairwise fun earlier later => earlier.1 < later.1) :
    findEntry key entries = some value ↔ (key, value) ∈ entries := by
  induction entries with
  | nil => simp [findEntry]
  | cons head rest induction =>
    have headBelow := (List.pairwise_cons.mp sorted).1
    have restSorted := (List.pairwise_cons.mp sorted).2
    by_cases same : key = head.1
    · have absent : (key, value) ∉ rest := fun member =>
        absurd (headBelow _ member) (same ▸ String.lt_irrefl key)
      simp only [findEntry, same, if_true, Option.some.injEq, List.mem_cons, Prod.ext_iff, true_and]
      exact ⟨fun equal => .inl equal.symm, fun either => either.elim Eq.symm fun member =>
        absurd (same ▸ member) absent⟩
    · have distinct : ¬(key, value) = head := fun equal => same (congrArg Prod.fst equal)
      simp [findEntry, same, distinct, induction restSorted]

theorem eq_of_same_entries {left right : List (String × α)}
    (leftSorted : left.Pairwise fun earlier later => earlier.1 < later.1)
    (rightSorted : right.Pairwise fun earlier later => earlier.1 < later.1)
    (same : ∀ entry, entry ∈ left ↔ entry ∈ right) : left = right := by
  induction left generalizing right with
  | nil =>
    cases right with
    | nil => rfl
    | cons head rest => exact absurd ((same head).mpr (List.mem_cons_self ..)) (by simp)
  | cons head rest induction =>
    cases right with
    | nil => exact absurd ((same head).mp (List.mem_cons_self ..)) (by simp)
    | cons other others =>
      have headBelow := (List.pairwise_cons.mp leftSorted).1
      have otherBelow := (List.pairwise_cons.mp rightSorted).1
      have equal : head = other := by
        rcases List.mem_cons.mp ((same head).mp (List.mem_cons_self ..)) with equal | later
        · exact equal
        · rcases List.mem_cons.mp ((same other).mpr (List.mem_cons_self ..)) with equal | earlier
          · exact equal.symm
          · exact absurd (String.lt_trans (otherBelow head later) (headBelow other earlier))
              (String.lt_irrefl _)
      subst equal
      rw [induction (List.pairwise_cons.mp leftSorted).2 (List.pairwise_cons.mp rightSorted).2]
      intro entry
      have sameCons := same entry
      constructor
      · intro member
        rcases List.mem_cons.mp (sameCons.mp (List.mem_cons_of_mem _ member)) with equal | later
        · exact absurd (equal ▸ headBelow entry member) (String.lt_irrefl _)
        · exact later
      · intro member
        rcases List.mem_cons.mp (sameCons.mpr (List.mem_cons_of_mem _ member)) with equal | later
        · exact absurd (equal ▸ otherBelow entry member) (String.lt_irrefl _)
        · exact later

theorem get?_empty (key : String) : (empty : KeyMap α).get? key = none := rfl

/-- Setting a key changes what that key gives and nothing else. -/
theorem get?_insert (map : KeyMap α) (key other : String) (value : α) :
    (map.insert key value).get? other = if other = key then some value else map.get? other :=
  findEntry_insertEntry key other value map.entries

theorem get?_eq_some_iff {map : KeyMap α} {key : String} {value : α} :
    map.get? key = some value ↔ (key, value) ∈ map.entries :=
  findEntry_eq_some_iff map.sorted

/-- Removing a key takes away what that key gives and nothing else. -/
theorem get?_erase (map : KeyMap α) (key other : String) :
    (map.erase key).get? other = if other = key then none else map.get? other := by
  apply Option.ext
  intro value
  rw [get?_eq_some_iff]
  by_cases same : other = key
  · simp [erase, filter, same]
  · simp [erase, filter, same, get?_eq_some_iff]

theorem ext_entries {left right : KeyMap α} (same : left.entries = right.entries) :
    left = right := by
  cases left
  cases right
  cases same
  rfl

theorem ext_get? {left right : KeyMap α} (same : ∀ key, left.get? key = right.get? key) :
    left = right := by
  apply ext_entries
  apply eq_of_same_entries left.sorted right.sorted
  intro entry
  have agrees := same entry.1
  constructor
  · intro member
    exact get?_eq_some_iff.mp (agrees ▸ get?_eq_some_iff.mpr member)
  · intro member
    exact get?_eq_some_iff.mp (agrees ▸ get?_eq_some_iff.mpr member)

/-- Setting a key adds an entry unless the key has one. -/
theorem size_insert (map : KeyMap α) (key : String) (value : α) :
    (map.insert key value).size = if map.contains key then map.size else map.size + 1 := by
  suffices lengths : ∀ {entries : List (String × α)},
      (entries.Pairwise fun earlier later => earlier.1 < later.1) →
      (insertEntry key value entries).length =
        if (findEntry key entries).isSome then entries.length else entries.length + 1 from
    lengths map.sorted
  intro entries sorted
  induction entries with
  | nil => rfl
  | cons head rest induction =>
    have headBelow := (List.pairwise_cons.mp sorted).1
    unfold insertEntry
    split
    · next below =>
      have absent : findEntry key (head :: rest) = none := by
        rw [Option.eq_none_iff_forall_ne_some]
        intro found same
        rcases List.mem_cons.mp ((findEntry_eq_some_iff sorted).mp same) with first | later
        · exact String.lt_irrefl _ (first ▸ below)
        · exact String.lt_asymm below (headBelow _ later)
      simp [absent]
    · split
      · next same => simp [findEntry, same]
      · next different =>
        have others := induction (List.pairwise_cons.mp sorted).2
        simp only [findEntry, if_neg different, List.length_cons, others]
        split <;> rfl

theorem mem_keys_iff {map : KeyMap α} {key : String} :
    key ∈ map.keys ↔ ∃ value, map.get? key = some value := by
  simp only [keys, List.mem_map, Prod.exists, exists_and_right, exists_eq_right, get?_eq_some_iff]

theorem mem_keys_insert {map : KeyMap α} {key other : String} {value : α} :
    other ∈ (map.insert key value).keys ↔ other = key ∨ other ∈ map.keys := by
  by_cases same : other = key <;> simp [mem_keys_iff, get?_insert, same]

theorem mem_keys_foldl_insert {entries : List (String × α)} {map : KeyMap α} {key : String} :
    key ∈ (entries.foldl (fun map entry => map.insert entry.1 entry.2) map).keys ↔
      key ∈ map.keys ∨ key ∈ entries.map Prod.fst := by
  induction entries generalizing map with
  | nil => simp
  | cons entry entries induction =>
    rw [List.foldl_cons, induction, mem_keys_insert, List.map_cons, List.mem_cons, or_assoc,
      or_left_comm]

theorem mem_keys_overlay {map other : KeyMap α} {key : String} :
    key ∈ (map.overlay other).keys ↔ key ∈ map.keys ∨ key ∈ other.keys :=
  mem_keys_foldl_insert

theorem mem_keys_ofList {entries : List (String × α)} {key : String} :
    key ∈ (ofList entries).keys ↔ key ∈ entries.map Prod.fst := by
  have none : key ∉ (empty : KeyMap α).keys := by simp [keys, empty]
  rw [ofList, mem_keys_foldl_insert, or_iff_right none]

theorem nodup_keys (map : KeyMap α) : map.keys.Nodup := by
  rw [keys, List.Nodup, List.pairwise_map]
  apply map.sorted.imp
  intro earlier later below same
  exact String.lt_irrefl _ (same ▸ below)

end KeyMap

namespace KeySet

theorem mem_keys_union {left right : KeySet} {key : String} :
    key ∈ (left.union right).keys ↔ key ∈ left.keys ∨ key ∈ right.keys :=
  KeyMap.mem_keys_overlay

theorem mem_keys_ofList {keys : List String} {key : String} :
    key ∈ (ofList keys).keys ↔ key ∈ keys := by
  simp [ofList, KeyMap.mem_keys_ofList, Function.comp_def]

theorem ext_keys {left right : KeySet} (same : ∀ key, key ∈ left.keys ↔ key ∈ right.keys) :
    left = right := by
  have given (set : KeySet) (key : String) : set.get? key = some () ↔ key ∈ set.keys := by
    rw [KeyMap.mem_keys_iff]
    exact ⟨fun found => ⟨(), found⟩, fun ⟨_, found⟩ => found⟩
  apply KeyMap.ext_get?
  intro key
  apply Option.ext
  rintro ⟨⟩
  rw [given, given]
  exact same key

theorem ofList_keys (set : KeySet) : ofList set.keys = set :=
  ext_keys fun _ => mem_keys_ofList

end KeySet

end Corpus
