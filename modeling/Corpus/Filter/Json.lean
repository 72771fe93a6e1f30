import Corpus.Filter.Basic
import Corpus.Json.Decode

/-!
# Filters in JSON

A filter is an object whose one key names the kind of condition.
-/

namespace Corpus

namespace Filter

/-- A bound, where null stands for a missing one. -/
def boundJson (bound : Option Value) : Json :=
  match bound with
  | some value => value.json
  | none => .null

mutual

def json : Filter → Json
  | .eq key value => .object [("Eq", .array [.string key, value.json])]
  | .oneOf key values =>
    .object [("In", .array [.string key, .array (values.map Value.json)])]
  | .range key min max =>
    .object [("Range",
      .object [("key", .string key), ("min", boundJson min), ("max", boundJson max)])]
  | .all filters => .object [("All", .array (jsonItems filters))]
  | .any filters => .object [("Any", .array (jsonItems filters))]

def jsonItems : List Filter → List Json
  | [] => []
  | filter :: filters => filter.json :: jsonItems filters

end

def boundValue (bound : Option Value) : Value :=
  bound.getD .null

mutual

/-- The value that a filter is written as. -/
def value : Filter → Value
  | .eq key value => .object (.singleton "Eq" (.array [.string key, value]))
  | .oneOf key values => .object (.singleton "In" (.array [.string key, .array values]))
  | .range key min max =>
    .object (.singleton "Range" (.object (.ofList
      [("key", .string key), ("min", boundValue min), ("max", boundValue max)])))
  | .all filters => .object (.singleton "All" (.array (values filters)))
  | .any filters => .object (.singleton "Any" (.array (values filters)))

def values : List Filter → List Value
  | [] => []
  | filter :: filters => filter.value :: values filters

end

/-! ## Reading -/

def names : List String := ["Eq", "In", "Range", "All", "Any"]

/-- A key with what it is compared to, while they are being read. -/
structure PartialPair (α : Type) where
  key : Option String
  operand : Option α

/-- The fields of a key with what it is compared to. -/
def pairShape {α : Type} (name : String) (decode : Source → Outline → Decode.Decoded α) :
    Decode.Shape (PartialPair α) where
  expected := "tuple variant MetadataFilter::" ++ name
  fields := [
    { name := "0"
      isRead := fun pair => pair.key.isSome
      read := fun _ outline pair => do
        let key ← Decode.string outline
        return { pair with key := some key }
      optional := false },
    { name := "1"
      isRead := fun pair => pair.operand.isSome
      read := fun source outline pair => do
        let operand ← decode source outline
        return { pair with operand := some operand }
      optional := false }]

def decodePair {α : Type} (name : String) (decode : Source → Outline → Decode.Decoded α)
    (source : Source) (outline : Outline) : Decode.Decoded (String × α) := do
  let pair ← Decode.tuple (pairShape name decode) ⟨none, none⟩ source outline
  let key ← Decode.required "0" pair.key
  let operand ← Decode.required "1" pair.operand
  return (key, operand)

/-- A range while it is being read. -/
structure PartialRange where
  key : Option String
  min : Option (Option Value)
  max : Option (Option Value)

def rangeShape : Decode.Shape PartialRange where
  expected := "struct variant MetadataFilter::Range"
  fields := [
    { name := "key"
      isRead := fun range => range.key.isSome
      read := fun _ outline range => do
        let key ← Decode.string outline
        return { range with key := some key }
      optional := false },
    { name := "min"
      isRead := fun range => range.min.isSome
      read := fun source outline range => do
        let min ← Decode.nullable (Decode.any source) outline
        return { range with min := some min }
      optional := false },
    { name := "max"
      isRead := fun range => range.max.isSome
      read := fun source outline range => do
        let max ← Decode.nullable (Decode.any source) outline
        return { range with max := some max }
      optional := false }]

def decodeRange (source : Source) (outline : Outline) : Decode.Decoded Filter := do
  let range ← Decode.parts rangeShape ⟨none, none, none⟩ source outline
  let key ← Decode.required "key" range.key
  return .range key range.min.join range.max.join

/-- How the content of a kind of condition is called. -/
def contentKind (name : String) : String :=
  if name = "Eq" || name = "In" then "tuple variant"
  else if name = "Range" then "struct variant"
  else "newtype variant"

def decodeLeaf (source : Source) (name : String) (outline : Outline) : Decode.Decoded Filter :=
  if name = "Eq" then
    (decodePair name Decode.any source outline).map fun pair => .eq pair.1 pair.2
  else if name = "In" then
    (decodePair name (Decode.sequence Decode.any) source outline).map fun pair =>
      .oneOf pair.1 pair.2
  else
    decodeRange source outline

mutual

def decode (source : Source) : Outline → Decode.Decoded Filter
  | .string name => Decode.lacksContent names name (contentKind name)
  | .object [] _ => Decode.noKey source
  | .object ((none, _) :: _) _ => .error .malformed
  | .object ((some name, content) :: rest) closed => do
    Decode.singleKey source rest
    let inner ← Decode.enter source
    Decode.variant names name
    let filter ← decodeContent inner name content
    Decode.afterContent rest closed filter
  | outline => Decode.noVariant source outline

/-- The filter of a known kind with its content. -/
def decodeContent (source : Source) (name : String) : Outline → Decode.Decoded Filter
  | .array items closed =>
    if name = "All" || name = "Any" then do
      let inner ← Decode.enter source
      let filters ← decodeItems inner items
      Decode.closing closed (if name = "All" then .all filters else .any filters)
    else decodeLeaf source name (.array items closed)
  | outline =>
    if name = "All" || name = "Any" then .error (Decode.unexpected outline "a sequence")
    else decodeLeaf source name outline

def decodeItems (source : Source) : List Outline → Decode.Decoded (List Filter)
  | [] => .ok []
  | item :: items => do
    let filter ← decode source item
    let filters ← decodeItems source items
    return filter :: filters

end

end Filter

end Corpus
