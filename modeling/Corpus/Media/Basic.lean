import Corpus.Text.Diagnostic

/-!
# Media

A piece of content that is not text, such as an image: its type, its data, and optionally an
identifier and a name.
-/

namespace Corpus

/-- The data of a medium, or the address where it lies. -/
inductive MediaData where
  | url (address : String)
  | bytes (data : List UInt8)
  deriving DecidableEq

/-- A piece of content that is not text. -/
structure Media where
  mimeType : String
  data : MediaData
  id : Option String
  name : Option String
  deriving DecidableEq

namespace MediaData

/-- The data as a JSON value: an object with the one key that says what it is. -/
def value : MediaData → Value
  | .url address => .object (.singleton "url" (.string address))
  | .bytes data => .object (.singleton "bytes" (.array (data.map fun byte => .ofNat byte.toNat)))

def diagnostic : MediaData → String
  | .url address => Diagnostic.call "Url" (Text.quoted address)
  | .bytes data =>
    Diagnostic.call "Bytes" (Diagnostic.list (data.map fun byte => toString byte.toNat))

end MediaData

namespace Media

def ofUrl (mimeType address : String) : Media :=
  ⟨mimeType, .url address, none, none⟩

def ofBytes (mimeType : String) (bytes : List UInt8) : Media :=
  ⟨mimeType, .bytes bytes, none, none⟩

/-- The fields of a medium; a missing identifier or name is left out. -/
def fields (media : Media) : List (String × Value) :=
  [("mime_type", .string media.mimeType), ("data", media.data.value)]
    ++ (media.id.map fun id => ("id", .string id)).toList
    ++ (media.name.map fun name => ("name", .string name)).toList

def value (media : Media) : Value :=
  .object (.ofList media.fields)

/-- The medium as a JSON object whose fields keep their own order. -/
def json (media : Media) : Json :=
  .object (media.fields.map fun field => (field.1, field.2.json))

def diagnostic (media : Media) : String :=
  Diagnostic.record "Media" [
    ("mime_type", Text.quoted media.mimeType),
    ("data", media.data.diagnostic),
    ("id", Diagnostic.option (media.id.map Text.quoted)),
    ("name", Diagnostic.option (media.name.map Text.quoted))]

def diagnostics (media : List Media) : String :=
  Diagnostic.list (media.map diagnostic)

end Media

end Corpus
