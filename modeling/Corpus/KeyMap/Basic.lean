/-!
# Maps with sorted text keys

A `KeyMap` lists its entries by strictly ascending key, by code point.  Each map has one such list,
so maps that agree on every key are equal, and the order of a listing does not depend on how the
map was made.
-/

namespace Corpus

/-- A finite map from texts, its entries in strictly ascending order of key. -/
structure KeyMap (α : Type) where
  entries : List (String × α)
  sorted : entries.Pairwise fun earlier later => earlier.1 < later.1
  deriving DecidableEq

namespace KeyMap

variable {α : Type}

/-- Sets the value of a key in a sorted list of entries. -/
def insertEntry (key : String) (value : α) : List (String × α) → List (String × α)
  | [] => [(key, value)]
  | entry :: rest =>
    if key < entry.1 then (key, value) :: entry :: rest
    else if key = entry.1 then (key, value) :: rest
    else entry :: insertEntry key value rest

theorem mem_insertEntry {key : String} {value : α} {entries : List (String × α)}
    {entry : String × α} (member : entry ∈ insertEntry key value entries) :
    entry = (key, value) ∨ entry ∈ entries := by
  induction entries with
  | nil => simpa [insertEntry] using member
  | cons head rest induction =>
    unfold insertEntry at member
    split at member
    · simpa using member
    · split at member
      · rcases List.mem_cons.mp member with same | later
        · exact .inl same
        · exact .inr (List.mem_cons_of_mem _ later)
      · rcases List.mem_cons.mp member with same | later
        · exact .inr (by simp [same])
        · exact (induction later).imp id (List.mem_cons_of_mem _)

theorem insertEntry_sorted {key : String} {value : α} {entries : List (String × α)}
    (sorted : entries.Pairwise fun earlier later => earlier.1 < later.1) :
    (insertEntry key value entries).Pairwise fun earlier later => earlier.1 < later.1 := by
  induction entries with
  | nil => simp [insertEntry]
  | cons head rest induction =>
    have headBelow := (List.pairwise_cons.mp sorted).1
    have restSorted := (List.pairwise_cons.mp sorted).2
    unfold insertEntry
    split
    · next below =>
      refine List.pairwise_cons.mpr ⟨fun entry member => ?_, sorted⟩
      rcases List.mem_cons.mp member with same | later
      · exact same ▸ below
      · exact String.lt_trans below (headBelow entry later)
    · next notBelow =>
      split
      · next same =>
        exact List.pairwise_cons.mpr
          ⟨fun entry member => same ▸ headBelow entry member, restSorted⟩
      · next different =>
        refine List.pairwise_cons.mpr ⟨fun entry member => ?_, induction restSorted⟩
        rcases mem_insertEntry member with same | later
        · subst same
          exact String.not_le.mp fun le =>
            different (String.le_antisymm le (String.not_lt.mp notBelow))
        · exact headBelow entry later

/-- The map without entries. -/
def empty : KeyMap α := ⟨[], List.Pairwise.nil⟩

instance : Inhabited (KeyMap α) := ⟨empty⟩

def singleton (key : String) (value : α) : KeyMap α :=
  ⟨[(key, value)], List.pairwise_singleton _ _⟩

def insert (map : KeyMap α) (key : String) (value : α) : KeyMap α :=
  ⟨insertEntry key value map.entries, insertEntry_sorted map.sorted⟩

/-- Keeps the entries that pass a test. -/
def filter (map : KeyMap α) (test : String → α → Bool) : KeyMap α :=
  ⟨map.entries.filter fun entry => test entry.1 entry.2, map.sorted.filter _⟩

def erase (map : KeyMap α) (key : String) : KeyMap α :=
  map.filter fun other _ => other != key

/-- The value of a key in a list of entries. -/
def findEntry (key : String) : List (String × α) → Option α
  | [] => none
  | entry :: rest => if key = entry.1 then some entry.2 else findEntry key rest

def get? (map : KeyMap α) (key : String) : Option α :=
  findEntry key map.entries

def contains (map : KeyMap α) (key : String) : Bool :=
  (map.get? key).isSome

/-- The keys in ascending order. -/
def keys (map : KeyMap α) : List String :=
  map.entries.map Prod.fst

def size (map : KeyMap α) : Nat :=
  map.entries.length

def isEmpty (map : KeyMap α) : Bool :=
  map.entries.isEmpty

/-- The entries of a listing, sorted by key. -/
def sortEntries (listing : List (String × α)) : List (String × α) :=
  listing.mergeSort fun left right => decide (left.1 ≤ right.1)

/-- The map of a list of entries; of entries with one key the last counts. -/
def ofList (entries : List (String × α)) : KeyMap α :=
  entries.foldl (fun map entry => map.insert entry.1 entry.2) empty

/-- The entries of one map, overlaid by those of another. -/
def overlay (map other : KeyMap α) : KeyMap α :=
  other.entries.foldl (fun map entry => map.insert entry.1 entry.2) map

/-- Two maps are alike when they have the same keys with alike values. -/
def alike (same : α → α → Bool) (left right : KeyMap α) : Bool :=
  left.size == right.size &&
    (left.entries.zip right.entries).all fun pair =>
      pair.1.1 == pair.2.1 && same pair.1.2 pair.2.2

end KeyMap

abbrev KeySet : Type := KeyMap Unit

namespace KeySet

def ofList (keys : List String) : KeySet :=
  KeyMap.ofList (keys.map fun key => (key, ()))

def union (left right : KeySet) : KeySet :=
  left.overlay right

end KeySet

end Corpus
