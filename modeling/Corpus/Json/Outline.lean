import Corpus.Json.Printer

/-!
# Outlines of JSON texts

An outline is what a reader going through a JSON text from left to right can have seen of it: the
values in their order, up to the place where the text leaves the grammar.  A reader that stops
early, or that skips parts of the text, can so be told apart from one that reads it to the end.
-/

namespace Corpus

/-- What stands at one place of a JSON text.  A container that the text does not close has
`closed` false, and its last item is then the place where the text leaves the grammar, if that is
inside an item.  A key is `none` when its text has no value. -/
inductive Outline where
  | null
  | bool (value : Bool)
  | number (value : Number)
  | string (text : String)
  | array (items : List Outline) (closed : Bool)
  | object (fields : List (Option String × Outline)) (closed : Bool)
  /-- A literal in the grammar without a value: a number beyond every real, or a string with half
  a surrogate pair.  It can be skipped and not read. -/
  | valueless
  /-- The text leaves the grammar here. -/
  | broken

namespace Outline

mutual

/-- Whether the text stays in the grammar to the end of this place. -/
def complete : Outline → Bool
  | .null | .bool _ | .number _ | .string _ | .valueless => true
  | .array items closed => closed && completeItems items
  | .object fields closed => closed && completeFields fields
  | .broken => false

/-- Whether the text stays in the grammar to the end of every item. -/
def completeItems : List Outline → Bool
  | [] => true
  | item :: items => item.complete && completeItems items

/-- Whether the text stays in the grammar to the end of every value. -/
def completeFields : List (Option String × Outline) → Bool
  | [] => true
  | (_, value) :: fields => value.complete && completeFields fields

end

mutual

/-- The outline of a value: all of it is in the grammar. -/
def ofJson : Json → Outline
  | .null => .null
  | .bool value => .bool value
  | .number value => .number value
  | .string text => .string text
  | .array items => .array (ofItems items) true
  | .object fields => .object (ofFields fields) true

def ofItems : List Json → List Outline
  | [] => []
  | item :: items => ofJson item :: ofItems items

def ofFields : List (String × Json) → List (Option String × Outline)
  | [] => []
  | (key, value) :: fields => (some key, ofJson value) :: ofFields fields

end

end Outline

/-- Where an outline comes from: a value that is already known, or a text of which `levels` more
containers may be opened inside one another. -/
inductive Source where
  | value
  | text (levels : Nat)

namespace Source

/-- The source inside one more container, if it may be opened. -/
def enter? : Source → Option Source
  | .value => some .value
  | .text 0 => none
  | .text (levels + 1) => some (.text levels)

/-- A text from its start: at most 127 containers nest. -/
def start : Source := .text 127

end Source

namespace Outline

mutual

/-- The value that an outline shows.  Of fields with one key the last counts. -/
def value? (source : Source) : Outline → Option Value
  | .null => some .null
  | .bool value => some (.bool value)
  | .number value => some (.number value)
  | .string text => some (.string text)
  | .array items closed =>
    match source.enter?, closed with
    | some inner, true => (items? inner items).map .array
    | _, _ => none
  | .object fields closed =>
    match source.enter?, closed with
    | some inner, true => (fields? inner .empty fields).map .object
    | _, _ => none
  | .valueless | .broken => none

def items? (source : Source) : List Outline → Option (List Value)
  | [] => some []
  | item :: items => do
    let value ← item.value? source
    let values ← items? source items
    return value :: values

/-- The fields that a map gets from those that are shown, in their order. -/
def fields? (source : Source) (map : KeyMap Value) :
    List (Option String × Outline) → Option (KeyMap Value)
  | [] => some map
  | (none, _) :: _ => none
  | (some key, outline) :: fields => do
    let value ← outline.value? source
    fields? source (map.insert key value) fields

end

end Outline

end Corpus
