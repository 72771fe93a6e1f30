import Corpus.Json.Scan
import Corpus.Text.Quoted

/-!
# Typed reading of JSON

Decoders turn outlines into values of other types.  They read a value that is already known, or a
text from left to right: there the first fault counts, be it that the text leaves the grammar or
that a value does not fit.  A fault of the text has no message.
-/

namespace Corpus

namespace Decode

/-- What a decoder met in the place of what it expected. -/
inductive Found where
  | null
  | bool (value : Bool)
  | number (value : Number)
  | string (text : String)
  | sequence
  | map
  | unitVariant

def Found.describe : Found → String
  | .null => "null"
  | .bool value => "boolean `" ++ (if value then "true" else "false") ++ "`"
  | .number (.integer value _) => "integer `" ++ toString value ++ "`"
  | .number (.real value) => "floating point `" ++ String.ofList (Number.writeReal value) ++ "`"
  | .string text => "string " ++ Text.quoted text
  | .sequence => "sequence"
  | .map => "map"
  | .unitVariant => "unit variant"

/-- Why a JSON value does not fit. -/
inductive Mismatch where
  | wrongType (found : Found) (expected : String)
  | wrongValue (found : Found) (expected : String)
  | wrongLength (length : Nat) (expected : String)
  | missingField (name : String)
  | repeatedField (name : String)
  | unknownVariant (name : String) (known : List String)
  | refused (reason : String)

def ticked (name : String) : String :=
  "`" ++ name ++ "`"

def alternatives : List String → String
  | [left, right] => ticked left ++ " or " ++ ticked right
  | names => "one of " ++ String.intercalate ", " (names.map ticked)

def Mismatch.message : Mismatch → String
  | .wrongType found expected => "invalid type: " ++ found.describe ++ ", expected " ++ expected
  | .wrongValue found expected => "invalid value: " ++ found.describe ++ ", expected " ++ expected
  | .wrongLength length expected =>
    "invalid length " ++ toString length ++ ", expected " ++ expected
  | .missingField name => "missing field " ++ ticked name
  | .repeatedField name => "duplicate field " ++ ticked name
  | .unknownVariant name known =>
    "unknown variant " ++ ticked name ++ ", expected " ++ alternatives known
  | .refused reason => reason

/-- Why a decoder fails: the text leaves the grammar, or a value does not fit. -/
inductive Fault where
  | malformed
  | mismatch (mismatch : Mismatch)

abbrev Decoded : Type → Type := Except Fault

/-- What stands at a place, if it can be told. -/
def found? : Outline → Option Found
  | .null => some .null
  | .bool value => some (.bool value)
  | .number value => some (.number value)
  | .string text => some (.string text)
  | .array .. => some .sequence
  | .object .. => some .map
  | .valueless | .broken => none

/-- The fault of a place that holds something else than expected. -/
def unexpected (outline : Outline) (expected : String) : Fault :=
  match found? outline with
  | some found => .mismatch (.wrongType found expected)
  | none => .malformed

/-- One level further into the containers of a source. -/
def enter (source : Source) : Decoded Source :=
  match source.enter? with
  | some inner => .ok inner
  | none => .error .malformed

def string : Outline → Decoded String
  | .string text => .ok text
  | outline => .error (unexpected outline "a string")

def any (source : Source) (outline : Outline) : Decoded Value :=
  match outline.value? source with
  | some value => .ok value
  | none => .error .malformed

def nullable {α : Type} (decode : Outline → Decoded α) : Outline → Decoded (Option α)
  | .null => .ok none
  | outline => (decode outline).map some

def byte : Outline → Decoded UInt8
  | .number (.integer value whole) =>
    if 0 ≤ value ∧ value < 256 then .ok (UInt8.ofNat value.toNat)
    else .error (.mismatch (.wrongValue (.number (.integer value whole)) "u8"))
  | outline => .error (unexpected outline "u8")

/-- A container that the text closes. -/
def closing {α : Type} (closed : Bool) (value : α) : Decoded α :=
  if closed then .ok value else .error .malformed

def sequence {α : Type} (decode : Source → Outline → Decoded α) (source : Source) :
    Outline → Decoded (List α)
  | .array items closed => do
    let inner ← enter source
    let values ← items.mapM (decode inner)
    closing closed values
  | outline => .error (unexpected outline "a sequence")

/-- The entries of a map, added to those read before. -/
def entries {α : Type} (decode : Outline → Decoded α) (map : KeyMap α) :
    List (Option String × Outline) → Decoded (KeyMap α)
  | [] => .ok map
  | (none, _) :: _ => .error .malformed
  | (some key, outline) :: fields => do
    let value ← decode outline
    entries decode (map.insert key value) fields

/-- A map; of entries with one key the last counts. -/
def map {α : Type} (decode : Source → Outline → Decoded α) (source : Source) :
    Outline → Decoded (KeyMap α)
  | .object fields closed => do
    let inner ← enter source
    let map ← entries (decode inner) .empty fields
    closing closed map
  | outline => .error (unexpected outline "a map")

/-! ## Records -/

/-- A field of a record that is being filled: how it is read into the record, and whether the
record can do without it. -/
structure Field (σ : Type) where
  name : String
  isRead : σ → Bool
  read : Source → Outline → σ → Decoded σ
  optional : Bool

/-- How a record is called in messages, and its fields in order. -/
structure Shape (σ : Type) where
  expected : String
  fields : List (Field σ)

/-- The length that an array of all fields has, as it is called in messages. -/
def Shape.expectedLength {σ : Type} (shape : Shape σ) : String :=
  shape.expected ++ " with " ++ toString shape.fields.length ++ " elements"

/-- Fills a record from the fields of an object.  Other fields are skipped, whatever they hold. -/
def named {σ : Type} (shape : Shape σ) (source : Source) (record : σ) :
    List (Option String × Outline) → Decoded σ
  | [] => .ok record
  | (none, _) :: _ => .error .malformed
  | (some key, outline) :: rest =>
    match shape.fields.find? fun field => field.name == key with
    | none =>
      if outline.complete then named shape source record rest
      else .error .malformed
    | some field =>
      if field.isRead record then .error (.mismatch (.repeatedField key))
      else do
        let record ← field.read source outline record
        named shape source record rest

/-- Fills a record from the items of an array, the first of which is the item `index`. -/
def positional {σ : Type} (shape : Shape σ) (source : Source) (closed : Bool) (record : σ) :
    List (Field σ) → Nat → List Outline → Decoded (σ × List Outline)
  | [], _, items => .ok (record, items)
  | field :: fields, index, [] =>
    if !closed then .error .malformed
    else if field.optional then positional shape source closed record fields (index + 1) []
    else .error (.mismatch (.wrongLength index shape.expectedLength))
  | field :: fields, index, item :: items => do
    let record ← field.read source item record
    positional shape source closed record fields (index + 1) items

def leftover (source : Source) (length : Nat) (closed : Bool) : List Outline → Decoded Unit
  | [] => closing closed ()
  | _ :: _ =>
    match source with
    | .value => .error (.mismatch (.wrongLength length "fewer elements in array"))
    | .text _ => .error .malformed

/-- Fills a record from an array of all its fields. -/
def recordOfItems {σ : Type} (shape : Shape σ) (source : Source) (record : σ)
    (items : List Outline) (closed : Bool) : Decoded σ := do
  let inner ← enter source
  let (record, rest) ← positional shape inner closed record shape.fields 0 items
  leftover source items.length closed rest
  return record

/-- Fills a record from the fields of an object. -/
def recordOfFields {σ : Type} (shape : Shape σ) (source : Source) (record : σ)
    (fields : List (Option String × Outline)) (closed : Bool) : Decoded σ := do
  let inner ← enter source
  let record ← named shape inner record fields
  closing closed record

/-- A record, given as an object or as an array of its fields in order. -/
def record {σ : Type} (shape : Shape σ) (blank : σ) (source : Source) : Outline → Decoded σ
  | .array items closed => recordOfItems shape source blank items closed
  | .object fields closed => recordOfFields shape source blank fields closed
  | outline => .error (unexpected outline shape.expected)

/-- A field that must be there. -/
def required {α : Type} (name : String) : Option α → Decoded α
  | some value => .ok value
  | none => .error (.mismatch (.missingField name))

/-! ## Alternatives

One of several variants is an object whose only key names it, or, if it has no content, just the
name. -/

def variant (known : List String) (name : String) : Decoded Unit :=
  if known.contains name then .ok () else .error (.mismatch (.unknownVariant name known))

/-- A variant given by its name alone although it has content. -/
def lacksContent {α : Type} (known : List String) (name kind : String) : Decoded α := do
  variant known name
  .error (.mismatch (.wrongType .unitVariant kind))

/-- A known value must be an object with a single key to be a variant. -/
def singleKey (source : Source) (rest : List (Option String × Outline)) : Decoded Unit :=
  match source, rest with
  | .value, _ :: _ => .error (.mismatch (.wrongValue .map "map with a single key"))
  | _, _ => .ok ()

/-- The end of the object behind the content of a variant. -/
def afterContent {α : Type} (rest : List (Option String × Outline)) (closed : Bool) (value : α) :
    Decoded α :=
  if rest.isEmpty then closing closed value else .error .malformed

/-- An object without a first key. -/
def noKey {α : Type} : Source → Decoded α
  | .value => .error (.mismatch (.wrongValue .map "map with a single key"))
  | .text _ => .error .malformed

def noVariant {α : Type} (source : Source) (outline : Outline) : Decoded α :=
  match source with
  | .value => .error (unexpected outline "string or map")
  | .text _ => .error .malformed

/-- One of the known variants, by what its name alone or its name and content stand for. -/
def choice {α : Type} (known : List String) (bare : String → Decoded α)
    (full : Source → String → Outline → Decoded α) (source : Source) : Outline → Decoded α
  | .string name => do
    variant known name
    bare name
  | .object [] _ => noKey source
  | .object ((none, _) :: _) _ => .error .malformed
  | .object ((some name, content) :: rest) closed => do
    singleKey source rest
    let inner ← enter source
    variant known name
    let value ← full inner name content
    afterContent rest closed value
  | outline => noVariant source outline

/-- The content of a variant that is an array of parts. -/
def tuple {σ : Type} (shape : Shape σ) (blank : σ) (source : Source) (outline : Outline) :
    Decoded σ :=
  match source, outline with
  | .value, .array [] _ => .error (.mismatch (.wrongType .null shape.expected))
  | _, .array items closed => recordOfItems shape source blank items closed
  | .value, _ => .error (unexpected outline "tuple variant")
  | .text _, _ => .error (unexpected outline shape.expected)

/-- The content of a variant that has named parts; only a text may list them in an array. -/
def parts {σ : Type} (shape : Shape σ) (blank : σ) (source : Source) (outline : Outline) :
    Decoded σ :=
  match source, outline with
  | .value, .object fields closed => recordOfFields shape source blank fields closed
  | .value, _ => .error (unexpected outline "struct variant")
  | .text _, _ => record shape blank source outline

def noContent : Outline → Decoded Unit
  | .null => .ok ()
  | outline => .error (unexpected outline "unit")

/-! ## Whole inputs -/

/-- The value that a decoder reads from a known value. -/
def fromValue {α : Type} (decode : Source → Outline → Decoded α) (value : Value) : Decoded α :=
  decode .value (.ofJson value.json)

/-- The value that a decoder reads from a text, which must hold nothing else. -/
def fromText {α : Type} (decode : Source → Outline → Decoded α) (text : String) : Decoded α := do
  let (outline, ended) := Outline.ofText text
  let value ← decode .start outline
  closing ended value

end Decode

end Corpus
