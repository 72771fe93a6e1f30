import Corpus.Document.Draft
import Corpus.Media.Decode
import Corpus.Vector.Component

/-!
# Documents in JSON

A document is written as an object of its parts, without its formatter; an empty embedding is left
out, and components that are not finite are null.  A document without identifier is read with a
random one.
-/

namespace Corpus

namespace Document

/-! ## Writing -/

def componentValue (component : Float32) : Value :=
  match Component.toDouble? component with
  | some real => .number (.real real)
  | none => .null

/-- The embedding as a field, unless it is empty. -/
def embeddingField (embedding : List Float32) : List (String × Value) :=
  if embedding.isEmpty then [] else [("embedding", .array (embedding.map componentValue))]

def value (document : Document) : Value :=
  .object (.ofList ([
    ("id", .string document.id),
    ("content", .string document.content),
    ("media", .array (document.media.map Media.value)),
    ("metadata", .object document.metadata)] ++ embeddingField document.embedding))

def writeField (name : String) (text : List Char) : List Char :=
  Json.writeString name ++ ':' :: text

/-- The embedding as a field of a text, unless it is empty. -/
def writeEmbedding (embedding : List Float32) : List (List Char) :=
  if embedding.isEmpty then []
  else
    let components := [','].intercalate (embedding.map Component.write)
    [writeField "embedding" ('[' :: (components ++ [']']))]

/-- The JSON text of a document: identifier, content, media, metadata and embedding, in this
order. -/
def text (document : Document) : String :=
  let fields := [
    writeField "id" (Json.writeString document.id),
    writeField "content" (Json.writeString document.content),
    writeField "media" (Json.array (document.media.map Media.json)).write,
    writeField "metadata" (Value.object document.metadata).json.write]
      ++ writeEmbedding document.embedding
  String.ofList ('{' :: ([','].intercalate fields ++ ['}']))

/-! ## Reading -/

/-- A document while it is being read. -/
structure Partial where
  id : Option (Option String)
  content : Option String
  media : Option (List Media)
  metadata : Option Metadata
  embedding : Option (List Float32)

def decodeComponent : Outline → Decode.Decoded Float32
  | .number number => .ok (Component.ofNumber number)
  | outline => .error (Decode.unexpected outline "f32")

def decodeEmbedding : Source → Outline → Decode.Decoded (List Float32) :=
  Decode.sequence fun _ => decodeComponent

def decodeMetadata : Source → Outline → Decode.Decoded Metadata :=
  Decode.map Decode.any

def shape : Decode.Shape Partial where
  expected := "struct DocumentWire"
  fields := [
    { name := "id"
      isRead := fun document => document.id.isSome
      read := fun _ outline document => do
        let id ← Decode.nullable Decode.string outline
        return { document with id := some id }
      optional := true },
    { name := "content"
      isRead := fun document => document.content.isSome
      read := fun _ outline document => do
        let content ← Decode.string outline
        return { document with content := some content }
      optional := false },
    { name := "media"
      isRead := fun document => document.media.isSome
      read := fun source outline document => do
        let media ← Media.decodeList source outline
        return { document with media := some media }
      optional := true },
    { name := "metadata"
      isRead := fun document => document.metadata.isSome
      read := fun source outline document => do
        let metadata ← decodeMetadata source outline
        return { document with metadata := some metadata }
      optional := true },
    { name := "embedding"
      isRead := fun document => document.embedding.isSome
      read := fun source outline document => do
        let embedding ← decodeEmbedding source outline
        return { document with embedding := some embedding }
      optional := true }]

/-- The parts of a document as they are read, with its draft. -/
structure Read where
  draft : Draft
  embedding : List Float32

/-- The draft that the parts of a document make. -/
def draftOf (id : Option String) (content : String) (media : List Media) (metadata : Metadata) :
    Draft :=
  let draft := ((Draft.blank.setContent content).setMedia media).setMetadata metadata
  match id with
  | some id => draft.setId id
  | none => draft

def decode (source : Source) (outline : Outline) : Decode.Decoded Read := do
  let document ← Decode.record shape ⟨none, none, none, none, none⟩ source outline
  let content ← Decode.required "content" document.content
  return {
    draft := draftOf document.id.join content (document.media.getD [])
      (document.metadata.getD .empty)
    embedding := document.embedding.getD [] }

def refusal (error : DocumentError) : Decode.Fault :=
  .mismatch (.refused error.message)

def Read.build (read : Read) : Attempt Decode.Fault Document := do
  let document ← read.draft.build.adapt refusal
  return document.setEmbedding read.embedding

/-- The document of a known value. -/
def ofValue (value : Value) : Attempt Decode.Fault Document := do
  let read ← Session.settle (Decode.fromValue decode value)
  read.build

/-- The document of a text, which must hold nothing else. -/
def ofText (text : String) : Attempt Decode.Fault Document := do
  let (outline, ended) := Outline.ofText text
  let read ← Session.settle (decode .start outline)
  let document ← read.build
  Session.settle (Decode.closing ended document)

end Document

end Corpus
