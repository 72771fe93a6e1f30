import Corpus.Json.Decode
import Corpus.Media.Basic

/-!
# Reading media

Media as they are read from JSON.
-/

namespace Corpus

namespace MediaData

def names : List String := ["url", "bytes"]

def decode : Source → Outline → Decode.Decoded MediaData :=
  Decode.choice names
    (fun name => Decode.lacksContent names name "newtype variant")
    (fun source name content =>
      if name = "url" then (Decode.string content).map .url
      else (Decode.sequence (fun _ => Decode.byte) source content).map .bytes)

end MediaData

namespace Media

/-- A medium while it is being read. -/
structure Partial where
  mimeType : Option String
  data : Option MediaData
  id : Option (Option String)
  name : Option (Option String)

def shape : Decode.Shape Partial where
  expected := "struct Media"
  fields := [
    { name := "mime_type"
      isRead := fun media => media.mimeType.isSome
      read := fun _ outline media => do
        let mimeType ← Decode.string outline
        return { media with mimeType := some mimeType }
      optional := false },
    { name := "data"
      isRead := fun media => media.data.isSome
      read := fun source outline media => do
        let data ← MediaData.decode source outline
        return { media with data := some data }
      optional := false },
    { name := "id"
      isRead := fun media => media.id.isSome
      read := fun _ outline media => do
        let id ← Decode.nullable Decode.string outline
        return { media with id := some id }
      optional := true },
    { name := "name"
      isRead := fun media => media.name.isSome
      read := fun _ outline media => do
        let name ← Decode.nullable Decode.string outline
        return { media with name := some name }
      optional := true }]

def decode (source : Source) (outline : Outline) : Decode.Decoded Media := do
  let media ← Decode.record shape ⟨none, none, none, none⟩ source outline
  let mimeType ← Decode.required "mime_type" media.mimeType
  let data ← Decode.required "data" media.data
  return ⟨mimeType, data, media.id.join, media.name.join⟩

def decodeList : Source → Outline → Decode.Decoded (List Media) :=
  Decode.sequence decode

end Media

end Corpus
