import Corpus.Json.Outline
import Corpus.KeyMap.Lemmas

/-!
# The outline of a value shows that value

Taking the outline of a value and then the value that the outline shows changes nothing: the
fields of an object are already sorted, so each of them is set at the end of the map.
-/

namespace Corpus

namespace Value

theorem map_json_ofItems {items : List Json} (sorted : Json.SortedItems items) :
    (ofItems items sorted).map Value.json = items := by
  induction items with
  | nil => rfl
  | cons item items induction => simp [ofItems, induction sorted.2]

theorem map_json_ofFields {fields : List (String × Json)} (sorted : Json.SortedFields fields) :
    (ofFields fields sorted).map (fun entry => (entry.1, entry.2.json)) = fields := by
  induction fields with
  | nil => rfl
  | cons field fields induction => simp [ofFields, induction sorted.2]

theorem ext_json {left right : Value} (same : left.json = right.json) : left = right := by
  cases left
  cases right
  cases same
  rfl

theorem isNull_iff {value : Value} : value.isNull = true ↔ value = .null := by
  constructor
  · intro null
    apply ext_json
    obtain ⟨json, sorted⟩ := value
    cases json with
    | null => rfl
    | _ => cases null
  · rintro rfl
    rfl

theorem array_ofItems {items : List Json} (sorted : (Json.array items).Sorted) :
    array (ofItems items sorted) = ⟨.array items, sorted⟩ :=
  ext_json (congrArg Json.array (map_json_ofItems sorted))

theorem object_of_entries {fields : List (String × Json)} (sorted : (Json.object fields).Sorted)
    {map : KeyMap Value} (entries : map.entries = ofFields fields sorted.2) :
    object map = ⟨.object fields, sorted⟩ :=
  ext_json (congrArg Json.object (by rw [entries, map_json_ofFields]))

end Value

namespace Outline

mutual

theorem value?_ofJson (json : Json) (sorted : json.Sorted) :
    (ofJson json).value? .value = some ⟨json, sorted⟩ := by
  cases json with
  | null => rfl
  | bool value => rfl
  | number value => rfl
  | string text => rfl
  | array items =>
      simp only [ofJson, value?, Source.enter?, items?_ofItems items sorted, Option.map_some,
        Value.array_ofItems]
  | object fields =>
      obtain ⟨shown, result, entries⟩ := fields?_ofFields fields sorted.2 .empty
        (by simp [KeyMap.empty]) sorted.1
      simp only [ofJson, value?, Source.enter?, result, Option.map_some,
        Value.object_of_entries sorted entries]

theorem items?_ofItems (items : List Json) (sorted : Json.SortedItems items) :
    items? .value (ofItems items) = some (Value.ofItems items sorted) := by
  cases items with
  | nil => rfl
  | cons item items =>
      simp only [ofItems, items?, value?_ofJson item sorted.1, items?_ofItems items sorted.2,
        Value.ofItems]
      rfl

/-- Ascending fields above all keys of a map are set behind them. -/
theorem fields?_ofFields (fields : List (String × Json)) (sorted : Json.SortedFields fields)
    (map : KeyMap Value)
    (above : ∀ entry ∈ map.entries, ∀ field ∈ fields, entry.1 < field.1)
    (ascending : fields.Pairwise fun earlier later => earlier.1 < later.1) :
    ∃ shown, fields? .value map (ofFields fields) = some shown ∧
      shown.entries = map.entries ++ Value.ofFields fields sorted := by
  cases fields with
  | nil => exact ⟨map, rfl, by simp [Value.ofFields]⟩
  | cons field fields =>
      obtain ⟨key, json⟩ := field
      obtain ⟨keyBelow, restAscending⟩ := List.pairwise_cons.mp ascending
      have atEnd : (map.insert key ⟨json, sorted.1⟩).entries =
          map.entries ++ [(key, ⟨json, sorted.1⟩)] :=
        KeyMap.insertEntry_of_below fun entry member => above entry member _ (List.mem_cons_self ..)
      obtain ⟨shown, result, entries⟩ := fields?_ofFields fields sorted.2
        (map.insert key ⟨json, sorted.1⟩)
        (by
          intro entry member other otherMember
          rw [atEnd] at member
          rcases List.mem_append.mp member with old | new
          · exact above entry old other (List.mem_cons_of_mem _ otherMember)
          · rw [List.mem_singleton.mp new]
            exact keyBelow other otherMember)
        restAscending
      refine ⟨shown, ?_, ?_⟩
      · simp only [ofFields, fields?, value?_ofJson json sorted.1]
        exact result
      · rw [entries, atEnd, List.append_assoc]
        rfl

end

end Outline

end Corpus
