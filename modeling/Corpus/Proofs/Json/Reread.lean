import Corpus.Proofs.Json.Depth
import Corpus.Proofs.Json.RoundTrip

/-!
# Values that are read back from their text

A value is read back from its compact text exactly if every number in it is read back from its own.
Whole numbers always are; a real can be read as one of its neighbours.
-/

namespace Corpus

namespace Json

mutual

/-- The numbers in a value, from left to right. -/
def numbers : Json → List Number
  | .null | .bool _ | .string _ => []
  | .number value => [value]
  | .array items => numbersItems items
  | .object fields => numbersFields fields

def numbersItems : List Json → List Number
  | [] => []
  | item :: items => item.numbers ++ numbersItems items

def numbersFields : List (String × Json) → List Number
  | [] => []
  | (_, value) :: fields => value.numbers ++ numbersFields fields

end

/-- Every number in the value is read back from its text. -/
def Steady (json : Json) : Prop :=
  ∀ number ∈ json.numbers, number.ReadsBack

instance (json : Json) : Decidable json.Steady :=
  inferInstanceAs (Decidable (∀ number ∈ json.numbers, number.ReadsBack))

theorem mem_numbersFields_iff {number : Number} {fields : List (String × Json)} :
    number ∈ numbersFields fields ↔ ∃ field ∈ fields, number ∈ field.2.numbers := by
  induction fields with
  | nil => simp [numbersFields]
  | cons field fields induction => simp [numbersFields, induction]

end Json

namespace Outline

mutual

/-- If all numbers are read back, the text of a value shows the value as it is. -/
theorem ofWritten_eq_ofJson {json : Json} (steady : json.Steady) :
    ofWritten json = ofJson json := by
  cases json with
  | null | bool value | string text => rfl
  | number value =>
      have read : value.reread? = some value := steady value (List.mem_singleton_self value)
      simp only [ofWritten, ofWrittenNumber, read, ofJson]
  | array items => rw [ofWritten, ofJson, ofWrittenItems_eq_ofItems steady]
  | object fields => rw [ofWritten, ofJson, ofWrittenFields_eq_ofFields steady]

theorem ofWrittenItems_eq_ofItems {items : List Json}
    (steady : ∀ number ∈ Json.numbersItems items, number.ReadsBack) :
    ofWrittenItems items = ofItems items := by
  cases items with
  | nil => rfl
  | cons item items =>
      obtain ⟨head, tail⟩ := List.forall_mem_append.mp steady
      rw [ofWrittenItems, ofItems, ofWritten_eq_ofJson head, ofWrittenItems_eq_ofItems tail]

theorem ofWrittenFields_eq_ofFields {fields : List (String × Json)}
    (steady : ∀ number ∈ Json.numbersFields fields, number.ReadsBack) :
    ofWrittenFields fields = ofFields fields := by
  cases fields with
  | nil => rfl
  | cons field fields =>
      obtain ⟨head, tail⟩ := List.forall_mem_append.mp steady
      rw [ofWrittenFields, ofFields, ofWritten_eq_ofJson head, ofWrittenFields_eq_ofFields tail]

end

theorem get?_of_fields? {source : Source} {fields : List (String × Json)}
    {before after : KeyMap Value} {key : String}
    (shown : fields? source before (ofWrittenFields fields) = some after)
    (absent : key ∉ fields.map Prod.fst) : after.get? key = before.get? key := by
  induction fields generalizing before with
  | nil =>
      cases shown
      rfl
  | cons field fields induction =>
      obtain ⟨value, -, rest⟩ := Option.bind_eq_some_iff.mp shown
      simp only [List.map_cons, List.mem_cons, not_or] at absent
      rw [induction rest absent.2, KeyMap.get?_insert, if_neg absent.1]

mutual

/-- If the text of a value shows the value as it is, all numbers are read back. -/
theorem steady_of_value? {source : Source} {json : Json} {value : Value}
    (shown : (ofWritten json).value? source = some value) (same : value.json = json) :
    json.Steady := by
  cases json with
  | null | bool value | string text => exact List.forall_mem_nil _
  | number number =>
      intro other member
      obtain rfl := List.mem_singleton.mp member
      unfold ofWritten ofWrittenNumber at shown
      cases read : other.reread? with
      | none => simp [read, value?] at shown
      | some found =>
          simp only [read, value?, Option.some.injEq] at shown
          subst shown
          cases same
          exact read
  | array items =>
      simp only [ofWritten, value?] at shown
      cases entered : source.enter? with
      | none => simp [entered] at shown
      | some inner =>
          simp only [entered] at shown
          obtain ⟨values, shownItems, rfl⟩ := Option.map_eq_some_iff.mp shown
          exact steady_of_items? shownItems (Json.array.inj same)
  | object fields =>
      simp only [ofWritten, value?] at shown
      cases entered : source.enter? with
      | none => simp [entered] at shown
      | some inner =>
          simp only [entered] at shown
          obtain ⟨map, shownFields, rfl⟩ := Option.map_eq_some_iff.mp shown
          have entries : map.entries.map (fun entry => (entry.1, entry.2.json)) = fields :=
            Json.object.inj same
          apply steady_of_fields? shownFields
          · rw [← entries, List.map_map]
            exact map.nodup_keys
          · intro field member
            rw [← entries] at member
            obtain ⟨entry, listed, rfl⟩ := List.mem_map.mp member
            rw [KeyMap.get?_eq_some_iff.mpr listed]
            rfl

theorem steady_of_items? {source : Source} {items : List Json} {values : List Value}
    (shown : items? source (ofWrittenItems items) = some values)
    (same : values.map Value.json = items) :
    ∀ number ∈ Json.numbersItems items, number.ReadsBack := by
  cases items with
  | nil => exact List.forall_mem_nil _
  | cons item items =>
      obtain ⟨value, shownItem, rest⟩ := Option.bind_eq_some_iff.mp shown
      obtain ⟨others, shownItems, made⟩ := Option.bind_eq_some_iff.mp rest
      cases made
      obtain ⟨sameItem, sameItems⟩ := List.cons.inj same
      exact List.forall_mem_append.mpr ⟨steady_of_value? shownItem sameItem,
        steady_of_items? shownItems sameItems⟩

theorem steady_of_fields? {source : Source} {fields : List (String × Json)}
    {before after : KeyMap Value}
    (shown : fields? source before (ofWrittenFields fields) = some after)
    (distinct : (fields.map Prod.fst).Nodup)
    (same : ∀ field ∈ fields, (after.get? field.1).map Value.json = some field.2) :
    ∀ number ∈ Json.numbersFields fields, number.ReadsBack := by
  cases fields with
  | nil => exact List.forall_mem_nil _
  | cons field fields =>
      obtain ⟨key, json⟩ := field
      obtain ⟨value, shownValue, rest⟩ := Option.bind_eq_some_iff.mp shown
      obtain ⟨fresh, restDistinct⟩ := List.nodup_cons.mp distinct
      have kept : after.get? key = some value := by
        rw [get?_of_fields? rest fresh, KeyMap.get?_insert, if_pos rfl]
      have sameValue := same (key, json) (List.mem_cons_self ..)
      simp only [kept, Option.map_some, Option.some.injEq] at sameValue
      exact List.forall_mem_append.mpr ⟨steady_of_value? shownValue sameValue,
        steady_of_fields? rest restDistinct fun other member =>
          same other (List.mem_cons_of_mem _ member)⟩

end

end Outline

namespace Value

/-- Printing the value and parsing the text gives it back. -/
def ReadsBack (value : Value) : Prop :=
  parse? value.compact = some value

theorem parse?_compact (value : Value) :
    parse? value.compact = (Outline.ofWritten value.json).value? .value := by
  simp only [parse?, compact, Outline.ofText_compact]

theorem readsBack_iff (value : Value) : value.ReadsBack ↔ value.json.Steady := by
  rw [ReadsBack, parse?_compact]
  constructor
  · intro shown
    exact Outline.steady_of_value? shown rfl
  · intro steady
    rw [Outline.ofWritten_eq_ofJson steady]
    exact Outline.value?_ofJson value.json value.sorted

theorem steady_object_iff (map : KeyMap Value) :
    (object map).json.Steady ↔ ∀ entry ∈ map.entries, entry.2.json.Steady := by
  constructor
  · intro steady entry listed number member
    apply steady
    exact Json.mem_numbersFields_iff.mpr ⟨_, List.mem_map.mpr ⟨entry, listed, rfl⟩, member⟩
  · intro steady number member
    obtain ⟨field, listed, inside⟩ := Json.mem_numbersFields_iff.mp member
    obtain ⟨entry, entryListed, rfl⟩ := List.mem_map.mp listed
    exact steady entry entryListed number inside

/-- An object is read back exactly if each of its values is. -/
theorem readsBack_object_iff (map : KeyMap Value) :
    (object map).ReadsBack ↔ ∀ entry ∈ map.entries, entry.2.ReadsBack := by
  simp only [readsBack_iff, steady_object_iff]

end Value

namespace Decode

variable {α : Type} {decode : Source → Outline → Decoded α} {json : Json} {value : α}

/-- A compact text that shows a value is read as that value is, if at most 127 of its containers are
open at once. -/
theorem fromText_compact_of_shown {shown : Json} (seen : Outline.ofWritten json = .ofJson shown)
    (read : decode .start (.ofJson shown) = within .start shown.depth value) :
    fromText decode json.compact =
      if shown.depth ≤ 127 then .ok value else .error .malformed := by
  rw [← within_start]
  simp only [fromText, Outline.ofText_compact, seen, read]
  exact within_bind_ok _ rfl

theorem fromText_compact (steady : json.Steady)
    (read : decode .start (.ofJson json) = within .start json.depth value) :
    fromText decode json.compact =
      if json.depth ≤ 127 then .ok value else .error .malformed :=
  fromText_compact_of_shown (Outline.ofWritten_eq_ofJson steady) read

end Decode

end Corpus
