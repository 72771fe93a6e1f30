import Corpus.Json.Number
import Corpus.KeyMap.Basic

/-!
# JSON values

`Json` is the shape of a JSON value; a `Value` is one in which every object lists its fields by
strictly ascending key.  Objects of values are made from key maps and hence never need sorting
again.
-/

namespace Corpus

/-- The shape of a JSON value. -/
inductive Json where
  | null
  | bool (value : Bool)
  | number (value : Number)
  | string (text : String)
  | array (items : List Json)
  | object (fields : List (String × Json))

namespace Json

mutual

/-- Every object lists its fields by strictly ascending key. -/
def Sorted : Json → Prop
  | .null | .bool _ | .number _ | .string _ => True
  | .array items => SortedItems items
  | .object fields =>
    (fields.Pairwise fun earlier later => earlier.1 < later.1) ∧ SortedFields fields

def SortedItems : List Json → Prop
  | [] => True
  | item :: items => item.Sorted ∧ SortedItems items

def SortedFields : List (String × Json) → Prop
  | [] => True
  | (_, value) :: fields => value.Sorted ∧ SortedFields fields

end

mutual

/-- Shapes are alike when they differ at most in the sign of zeros. -/
def alike : Json → Json → Bool
  | .null, .null => true
  | .bool left, .bool right => left == right
  | .number left, .number right => left.alike right
  | .string left, .string right => left == right
  | .array left, .array right => alikeItems left right
  | .object left, .object right => alikeFields left right
  | _, _ => false

/-- Lists of equal length whose items are alike, place by place. -/
def alikeItems : List Json → List Json → Bool
  | [], [] => true
  | left :: lefts, right :: rights => left.alike right && alikeItems lefts rights
  | _, _ => false

/-- Lists of the same keys whose values are alike, place by place. -/
def alikeFields : List (String × Json) → List (String × Json) → Bool
  | [], [] => true
  | (leftKey, left) :: lefts, (rightKey, right) :: rights =>
    leftKey == rightKey && left.alike right && alikeFields lefts rights
  | _, _ => false

end

end Json

/-- A JSON value, the fields of its objects sorted by key. -/
structure Value where
  json : Json
  sorted : json.Sorted

namespace Value

theorem sortedItems_map (values : List Value) :
    Json.SortedItems (values.map Value.json) := by
  induction values with
  | nil => exact trivial
  | cons value values induction => exact ⟨value.sorted, induction⟩

theorem sortedFields_map (entries : List (String × Value)) :
    Json.SortedFields (entries.map fun entry => (entry.1, entry.2.json)) := by
  induction entries with
  | nil => exact trivial
  | cons entry entries induction => exact ⟨entry.2.sorted, induction⟩

def null : Value := ⟨.null, trivial⟩

def bool (value : Bool) : Value := ⟨.bool value, trivial⟩

def number (value : Number) : Value := ⟨.number value, trivial⟩

def string (text : String) : Value := ⟨.string text, trivial⟩

def array (items : List Value) : Value :=
  ⟨.array (items.map Value.json), sortedItems_map items⟩

def object (fields : KeyMap Value) : Value :=
  ⟨.object (fields.entries.map fun entry => (entry.1, entry.2.json)),
    by simpa [List.pairwise_map] using fields.sorted, sortedFields_map fields.entries⟩

def ofNat (whole : Nat) : Value :=
  .number (Number.ofInt whole)

/-- Values are alike when they differ at most in the sign of zeros. -/
def alike (left right : Value) : Bool :=
  left.json.alike right.json

def ofItems : (items : List Json) → Json.SortedItems items → List Value
  | [], _ => []
  | item :: items, sorted => ⟨item, sorted.1⟩ :: ofItems items sorted.2

def ofFields : (fields : List (String × Json)) → Json.SortedFields fields → List (String × Value)
  | [], _ => []
  | (key, json) :: fields, sorted => (key, ⟨json, sorted.1⟩) :: ofFields fields sorted.2

theorem map_fst_ofFields {fields : List (String × Json)} (sorted : Json.SortedFields fields) :
    (ofFields fields sorted).map Prod.fst = fields.map Prod.fst := by
  induction fields with
  | nil => rfl
  | cons field fields induction => simp [ofFields, induction sorted.2]

def items? : Value → Option (List Value)
  | ⟨.array items, sorted⟩ => some (ofItems items sorted)
  | _ => none

def fields? : Value → Option (KeyMap Value)
  | ⟨.object fields, sorted⟩ => some ⟨ofFields fields sorted.2, by
      have ascending := sorted.1
      rw [← List.pairwise_map (f := Prod.fst) (R := (· < ·))] at ascending ⊢
      rwa [map_fst_ofFields]⟩
  | _ => none

def text? : Value → Option String
  | ⟨.string text, _⟩ => some text
  | _ => none

def isNull (value : Value) : Bool :=
  match value.json with
  | .null => true
  | _ => false

/-- The number that a value is, as a real. -/
def toDouble? (value : Value) : Option Double :=
  match value.json with
  | .number number => some number.toDouble
  | _ => none

end Value

end Corpus
