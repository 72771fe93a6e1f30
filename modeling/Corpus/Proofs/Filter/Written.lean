import Corpus.Filter.Json
import Corpus.Proofs.Json.Reread

/-!
# Written filters

A filter is written as a value or as a text.  Both hold the same, but a value lists the bounds of a
range by key and a text lists them in their order; what is said of both is said of every shape that
a filter is written in.
-/

namespace Corpus

namespace Filter

theorem json_boundValue (bound : Option Value) : (boundValue bound).json = boundJson bound := by
  cases bound <;> rfl

mutual

/-- The shapes that a filter is written in.  A text lists the bounds of a range in their order, a
value lists them by key. -/
inductive Written : Filter → Json → Prop where
  | eq (key : String) (value : Value) :
      Written (.eq key value) (.object [("Eq", .array [.string key, value.json])])
  | oneOf (key : String) (values : List Value) :
      Written (.oneOf key values)
        (.object [("In", .array [.string key, .array (values.map Value.json)])])
  | range (key : String) (min max : Option Value) :
      Written (.range key min max) (.object [("Range", .object
        [("key", .string key), ("min", boundJson min), ("max", boundJson max)])])
  | sortedRange (key : String) (min max : Option Value) :
      Written (.range key min max) (.object [("Range", .object
        [("key", .string key), ("max", boundJson max), ("min", boundJson min)])])
  | all {filters : List Filter} {items : List Json} (written : WrittenItems filters items) :
      Written (.all filters) (.object [("All", .array items)])
  | any {filters : List Filter} {items : List Json} (written : WrittenItems filters items) :
      Written (.any filters) (.object [("Any", .array items)])

inductive WrittenItems : List Filter → List Json → Prop where
  | nil : WrittenItems [] []
  | cons {filter : Filter} {filters : List Filter} {item : Json} {items : List Json}
      (head : Written filter item) (tail : WrittenItems filters items) :
      WrittenItems (filter :: filters) (item :: items)

end

mutual

theorem written_json (filter : Filter) : Written filter filter.json := by
  cases filter with
  | eq key value => exact .eq key value
  | oneOf key values => exact .oneOf key values
  | range key min max => exact .range key min max
  | all filters => exact .all (written_jsonItems filters)
  | any filters => exact .any (written_jsonItems filters)

theorem written_jsonItems (filters : List Filter) : WrittenItems filters (jsonItems filters) := by
  cases filters with
  | nil => exact .nil
  | cons filter filters => exact .cons (written_json filter) (written_jsonItems filters)

end

theorem entries_range {α : Type} (key min max : α) :
    (KeyMap.ofList [("key", key), ("min", min), ("max", max)]).entries =
      [("key", key), ("max", max), ("min", min)] := by
  have keyFirst : ¬"min" < "key" ∧ ¬"max" < "key" := by decide
  have maxFirst : "max" < "min" := by decide
  simp [KeyMap.ofList, KeyMap.insert, KeyMap.insertEntry, KeyMap.empty, keyFirst, maxFirst]

mutual

theorem written_value (filter : Filter) : Written filter filter.value.json := by
  cases filter with
  | eq key value => exact .eq key value
  | oneOf key values => exact .oneOf key values
  | range key min max =>
      simp only [value, Value.object, KeyMap.singleton, entries_range, List.map_cons, List.map_nil,
        json_boundValue]
      exact .sortedRange key min max
  | all filters => exact .all (written_values filters)
  | any filters => exact .any (written_values filters)

theorem written_values (filters : List Filter) :
    WrittenItems filters ((values filters).map Value.json) := by
  cases filters with
  | nil => exact .nil
  | cons filter filters => exact .cons (written_value filter) (written_values filters)

end

theorem value?_ofJson_boundJson (bound : Option Value) :
    (Outline.ofJson (boundJson bound)).value? .value = some (boundValue bound) := by
  cases bound with
  | none => rfl
  | some value => exact Outline.value?_ofJson value.json value.sorted

mutual

/-- The text of a filter and its value hold the same. -/
theorem value?_ofJson_json (filter : Filter) :
    (Outline.ofJson filter.json).value? .value = some filter.value := by
  cases filter with
  | eq key value => exact Outline.value?_ofJson _ (Filter.eq key value).value.sorted
  | oneOf key values => exact Outline.value?_ofJson _ (Filter.oneOf key values).value.sorted
  | range key min max =>
      simp only [json, Outline.ofJson, Outline.ofFields, Outline.value?, Outline.fields?,
        Source.enter?, value?_ofJson_boundJson]
      rfl
  | all filters =>
      simp only [json, Outline.ofJson, Outline.ofFields, Outline.value?, Outline.fields?,
        Source.enter?, items?_ofItems_jsonItems filters]
      rfl
  | any filters =>
      simp only [json, Outline.ofJson, Outline.ofFields, Outline.value?, Outline.fields?,
        Source.enter?, items?_ofItems_jsonItems filters]
      rfl

theorem items?_ofItems_jsonItems (filters : List Filter) :
    Outline.items? .value (Outline.ofItems (jsonItems filters)) = some (values filters) := by
  cases filters with
  | nil => rfl
  | cons filter filters =>
      simp only [jsonItems, Outline.ofItems, Outline.items?, value?_ofJson_json filter,
        items?_ofItems_jsonItems filters]
      rfl

end

theorem parse?_compact_json {filter : Filter} (steady : filter.json.Steady) :
    Value.parse? filter.json.compact = some filter.value := by
  simp only [Value.parse?, Outline.ofText_compact, Outline.ofWritten_eq_ofJson steady]
  exact value?_ofJson_json filter

end Filter

end Corpus
