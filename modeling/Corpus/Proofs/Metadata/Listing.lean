import Corpus.Proofs.Json.Reread
import Corpus.Proofs.KeyMap.Listing
import Corpus.Proofs.Metadata.Canonical

/-!
# Metadata is written from any listing

Metadata is written by a loop over its entries, sorted by key, that puts a comma before every entry
but the first.  The order in which the metadata was listed leaves no trace: the text is that of the
object with the same entries, and it is read as this object exactly if each value is read back from
its own text.
-/

namespace Corpus.Metadata

theorem toList_appendEntry (text : String) (entry : String × Value) (index : Nat) :
    (appendEntry text (entry, index)).toList =
      text.toList ++ ((if 0 < index then [','] else []) ++ writeEntry entry) := by
  have key : (Value.string entry.1).compact.toList = Json.writeString entry.1 :=
    String.toList_ofList
  have value : entry.2.compact.toList = entry.2.json.write := String.toList_ofList
  unfold appendEntry
  split
  · simp [key, value, writeEntry]
  · simp [key, value, writeEntry]

theorem toList_foldl_appendEntry_succ (entries : List (String × Value)) (text : String)
    (index : Nat) :
    ((entries.zipIdx (index + 1)).foldl appendEntry text).toList =
      text.toList ++ (entries.map writeEntry).flatMap (',' :: ·) := by
  induction entries generalizing text index with
  | nil => simp
  | cons entry entries induction =>
    have others := induction (appendEntry text (entry, index + 1)) (index + 1)
    rw [toList_appendEntry] at others
    simpa using others

/-- The loop writes the entries with a comma between each two of them. -/
theorem toList_foldl_appendEntry (entries : List (String × Value)) (text : String) :
    (entries.zipIdx.foldl appendEntry text).toList =
      text.toList ++ [','].intercalate (entries.map writeEntry) := by
  cases entries with
  | nil => simp
  | cons first others =>
    have later := toList_foldl_appendEntry_succ others (appendEntry text (first, 0)) 0
    rw [toList_appendEntry] at later
    simpa [intercalate_cons] using later

theorem writeListing_eq_canonical {metadata : Metadata} {listing : List (String × Value)}
    (permuted : metadata.entries.Perm listing) : writeListing listing = metadata.canonical := by
  have written := toList_foldl_appendEntry metadata.entries "\x7b"
  apply String.toList_inj.mp
  unfold writeListing
  simp [KeyMap.sortEntries_eq_entries permuted, written, toList_canonical, inner]

/-- However metadata is listed, one text is written: the compact text of the object that is
collected from the listing, with exactly the keys and values of the metadata.  Parsing the text
gives this object exactly if printing and parsing are inverse on each value.  A reader that opens at
most 127 containers inside one another then reads the object if it nests no deeper, and refuses the
text otherwise. -/
theorem writeListing_readsBack {metadata : Metadata} {listing : List (String × Value)}
    (permuted : metadata.entries.Perm listing) :
    writeListing listing = metadata.canonical ∧
    KeyMap.ofList listing = metadata ∧
    writeListing listing = (Value.object (KeyMap.ofList listing)).compact ∧
    (Value.object metadata).fields? = some metadata ∧
    (Value.parse? (writeListing listing) = some (.object metadata) ↔
      ∀ entry ∈ listing, entry.2.ReadsBack) ∧
    ((∀ entry ∈ listing, entry.2.ReadsBack) →
      Decode.fromText Decode.any (writeListing listing) =
        if (Value.object metadata).json.depth ≤ 127 then .ok (.object metadata)
        else .error .malformed) := by
  have canonical := writeListing_eq_canonical permuted
  have compact := canonical.trans metadata.canonical_eq_compact
  have collected := KeyMap.ofList_eq_of_perm permuted
  have listed : (Value.object metadata).ReadsBack ↔ ∀ entry ∈ listing, entry.2.ReadsBack := by
    simp only [Value.readsBack_object_iff, permuted.mem_iff]
  refine ⟨canonical, collected, ?_, Value.fields?_object metadata, ?_, ?_⟩
  · rw [collected]
    exact compact
  · rw [compact]
    exact listed
  · intro inverse
    have steady := (Value.readsBack_iff _).mp (listed.mpr inverse)
    rw [compact]
    exact Decode.fromText_compact steady (Decode.any_ofJson .start (.object metadata))

/-- The later key is listed first, the other key needs an escape, and one value is a real. -/
theorem writeListing_readsBack_escaped :
    let half : Number := .real ⟨false, 0x10000000000000, -53, by decide⟩
    let listing : List (String × Value) :=
      [("b", .array [.object (.singleton "" .null), .number half]), ("a\"", .string "\n")]
    let metadata : Metadata := KeyMap.ofList listing
    metadata.entries = listing.reverse ∧
    writeListing listing = "\x7b\"a\\\"\":\"\\n\",\"b\":[\x7b\"\":null\x7d,0.5]\x7d" ∧
    (∀ entry ∈ listing, entry.2.ReadsBack) ∧
    Value.parse? (writeListing listing) = some (.object metadata) ∧
    Decode.fromText Decode.any (writeListing listing) = .ok (.object metadata) := by
  intro half listing metadata
  have order : "a\"" < "b" := by
    decide
  have entries : metadata.entries = listing.reverse := by
    simp [metadata, listing, KeyMap.ofList, KeyMap.insert, KeyMap.insertEntry, KeyMap.empty, order]
  have permuted : metadata.entries.Perm listing := by
    rw [entries]
    exact listing.reverse_perm
  have inverse : ∀ entry ∈ listing, entry.2.ReadsBack := by
    simp only [Value.readsBack_iff]
    decide +kernel
  obtain ⟨canonical, -, -, -, parsed, read⟩ := writeListing_readsBack permuted
  refine ⟨entries, canonical.trans ?_, inverse, parsed.mpr inverse, ?_⟩
  · decide +kernel
  · rw [read inverse]
    exact if_pos (by decide)

end Corpus.Metadata
