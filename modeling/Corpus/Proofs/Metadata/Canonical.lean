import Corpus.Metadata
import Corpus.Proofs.Json.Nesting
import Corpus.Proofs.Json.RoundTrip

/-!
# Canonical metadata

The canonical text of metadata is the compact text of the object with its entries.  It determines
the metadata, and it is not the end of another canonical text.
-/

namespace Corpus

namespace Value

theorem object_injective {left right : KeyMap Value}
    (same : object left = object right) : left = right := by
  obtain ⟨entries, sorted⟩ := left
  obtain ⟨otherEntries, otherSorted⟩ := right
  have fields := congrArg Value.json same
  simp only [object, Json.object.injEq] at fields
  have entriesSame : entries = otherEntries := by
    refine List.map_injective_iff.mpr ?_ fields
    intro entry other shapes
    have keys := congrArg Prod.fst shapes
    have values := ext_json (congrArg Prod.snd shapes)
    exact Prod.ext keys values
  subst entriesSame
  rfl

theorem fields?_object (map : KeyMap Value) : (object map).fields? = some map := by
  obtain ⟨fields, found⟩ : ∃ fields, (object map).fields? = some fields := ⟨_, rfl⟩
  have same : object fields = object map := by
    cases found
    exact object_of_entries (object map).sorted rfl
  rw [found, object_injective same]

end Value

namespace Metadata

def inner (metadata : Metadata) : List Char :=
  [','].intercalate (metadata.entries.map writeEntry)

theorem toList_canonical (metadata : Metadata) :
    metadata.canonical.toList = '\x7b' :: (metadata.inner ++ ['\x7d']) :=
  String.toList_ofList

theorem intercalate_cons (text : List Char) (texts : List (List Char)) :
    [','].intercalate (text :: texts) = text ++ texts.flatMap (',' :: ·) := by
  induction texts generalizing text with
  | nil => simp
  | cons next texts induction => simp [List.intercalate_cons_cons, induction]

private theorem writeFields_eq (entries : List (String × Value)) :
    Json.writeFields (entries.map fun entry => (entry.1, entry.2.json)) =
      (entries.map writeEntry).flatMap (',' :: ·) ++ ['\x7d'] := by
  induction entries with
  | nil => rfl
  | cons entry entries induction => simp [Json.writeFields, induction, writeEntry]

private theorem write_object (entries : List (String × Value)) :
    Json.write (.object (entries.map fun entry => (entry.1, entry.2.json))) =
      '\x7b' :: ([','].intercalate (entries.map writeEntry) ++ ['\x7d']) := by
  cases entries with
  | nil => rfl
  | cons entry entries =>
      simp only [List.map_cons, intercalate_cons, Json.write, writeFields_eq, writeEntry]
      simp

theorem canonical_eq_compact (metadata : Metadata) :
    metadata.canonical = (Value.object metadata).compact :=
  congrArg String.ofList (write_object metadata.entries).symm

theorem canonical_injective {left right : Metadata} (same : left.canonical = right.canonical) :
    left = right := by
  rw [canonical_eq_compact, canonical_eq_compact] at same
  exact Value.object_injective (Value.compact_injective same)

theorem level_canonical (metadata : Metadata) : Json.Level metadata.canonical.toList := by
  rw [canonical_eq_compact, Value.compact, Json.compact, String.toList_ofList]
  exact Json.level_write _

private theorem level_writeEntry (entry : String × Value) : Json.Level (writeEntry entry) :=
  (Json.level_writeString entry.1).append
    ((Json.level_write entry.2.json).cons_plain (by simp [Json.Plain]))

theorem level_inner (metadata : Metadata) : Json.Level metadata.inner := by
  unfold inner
  induction metadata.entries with
  | nil => exact Json.level_nil
  | cons entry entries induction =>
      cases entries with
      | nil => simpa using level_writeEntry entry
      | cons next entries =>
          simp only [List.map_cons, List.intercalate_cons_cons] at induction ⊢
          rw [List.append_assoc]
          exact (level_writeEntry entry).append (induction.cons_plain (by simp [Json.Plain]))

private theorem eq_nil_of_canonical_suffix {front : List Char} {whole ending : Metadata}
    (same : whole.canonical.toList = front ++ ending.canonical.toList) : front = [] := by
  rw [toList_canonical] at same
  exact Json.eq_nil_of_level_suffix whole.level_inner ending.level_canonical
    (by rw [toList_canonical]; rfl) same

/-- Where a canonical text starts behind another text can be told from the two joined. -/
theorem eq_of_append_canonical {left right : List Char} {first second : Metadata}
    (same : left ++ first.canonical.toList = right ++ second.canonical.toList) :
    left = right ∧ first.canonical.toList = second.canonical.toList := by
  rcases List.append_eq_append_iff.mp same with ⟨front, split, ends⟩ | ⟨front, split, ends⟩
  · obtain rfl := eq_nil_of_canonical_suffix ends
    exact ⟨by simpa using split.symm, ends⟩
  · obtain rfl := eq_nil_of_canonical_suffix ends
    exact ⟨by simpa using split, ends.symm⟩

end Metadata

end Corpus
