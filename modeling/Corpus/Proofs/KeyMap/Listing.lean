import Corpus.KeyMap.Lemmas

/-!
# Listings of maps

The entries of a map may be listed in any order.  A listing that is sorted by key gives the entries
of the map again, and one that is collected gives the map, whatever its order was.
-/

namespace Corpus.KeyMap

variable {α : Type} {map : KeyMap α} {listing : List (String × α)}

theorem sortEntries_perm (listing : List (String × α)) : (sortEntries listing).Perm listing :=
  List.mergeSort_perm ..

theorem pairwise_sortEntries (listing : List (String × α)) :
    (sortEntries listing).Pairwise fun earlier later => earlier.1 ≤ later.1 := by
  have sorted : (sortEntries listing).Pairwise
      fun earlier later => decide (earlier.1 ≤ later.1) = true := by
    apply List.pairwise_mergeSort
    · intro first second third
      simpa using String.le_trans
    · intro left right
      simpa using String.le_total left.1 right.1
  apply sorted.imp
  intro earlier later
  exact of_decide_eq_true

/-- However a map is listed, sorting gives its entries. -/
theorem sortEntries_eq_entries (permuted : map.entries.Perm listing) :
    sortEntries listing = map.entries := by
  have shuffled : (sortEntries listing).Perm map.entries :=
    (sortEntries_perm listing).trans permuted.symm
  have ascending : map.entries.Pairwise fun earlier later => earlier.1 ≤ later.1 := by
    apply map.sorted.imp
    intro earlier later below
    exact String.not_lt.mp (String.lt_asymm below)
  apply List.Perm.eq_of_pairwise ?_ (pairwise_sortEntries listing) ascending shuffled
  intro left right listed member below above
  have sameKey : left.1 = right.1 := String.le_antisymm below above
  have leftFound : map.get? left.1 = some left.2 :=
    get?_eq_some_iff.mpr (shuffled.mem_iff.mp listed)
  have rightFound : map.get? left.1 = some right.2 := by
    rw [sameKey]
    exact get?_eq_some_iff.mpr member
  exact Prod.ext sameKey (Option.some.inj (leftFound.symm.trans rightFound))

/-- Entries with distinct keys that are set one after the other all stay. -/
theorem get?_foldl_insert_eq_some_iff {entries : List (String × α)}
    (distinct : (entries.map Prod.fst).Nodup) {map : KeyMap α} {key : String} {value : α} :
    (entries.foldl (fun map entry => map.insert entry.1 entry.2) map).get? key = some value ↔
      (key, value) ∈ entries ∨ key ∉ entries.map Prod.fst ∧ map.get? key = some value := by
  induction entries generalizing map with
  | nil => simp
  | cons entry entries induction =>
    obtain ⟨fresh, restDistinct⟩ := List.nodup_cons.mp distinct
    rw [List.foldl_cons, induction restDistinct, get?_insert]
    by_cases same : key = entry.1
    · subst same
      have absent : (entry.1, value) ∉ entries := fun member =>
        fresh (List.mem_map.mpr ⟨_, member, rfl⟩)
      simp [absent, fresh, Prod.ext_iff, eq_comm]
    · simp [same, Prod.ext_iff]

theorem ofList_eq_of_perm (permuted : map.entries.Perm listing) : ofList listing = map := by
  have distinct : (listing.map Prod.fst).Nodup :=
    (permuted.map Prod.fst).nodup_iff.mp map.nodup_keys
  apply ext_get?
  intro key
  apply Option.ext
  intro value
  have collected : (ofList listing).get? key = some value ↔ (key, value) ∈ listing := by
    simp [ofList, get?_foldl_insert_eq_some_iff distinct, get?_empty]
  exact (collected.trans permuted.mem_iff.symm).trans get?_eq_some_iff.symm

end Corpus.KeyMap
