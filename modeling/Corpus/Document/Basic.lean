import Corpus.Formatter.Basic
import Corpus.Id

/-!
# Documents

A document is a record with the formatter that renders it.  Its identity is its identifier, its
content and its metadata: media, embedding and formatter do not take part in `Document.alike` and
`Document.identity`.
-/

namespace Corpus

/-- A unit of text on its way through a retrieval pipeline. -/
structure Document extends Record where
  formatter : Formatter

namespace Document

/-- A document with the standard formatter and without an embedding. -/
def assemble (id content : String) (media : List Media) (metadata : Metadata) : Document where
  id
  content
  media
  metadata
  embedding := []
  formatter := .standard

/-- A document of given parts; a blank identifier is refused. -/
def ofParts (id content : String) (media : List Media) (metadata : Metadata) :
    Except DocumentError Document :=
  if Text.isBlank id then .error .emptyId else .ok (assemble id content media metadata)

/-- A document without media. -/
def withId (id content : String) (metadata : Metadata) : Except DocumentError Document :=
  ofParts id content [] metadata

/-- A generated identifier, which is reported. -/
def generateId (scheme : IdScheme) (content : String) (metadata : Metadata) :
    Run String := do
  let id ← scheme.generate content metadata
  Session.report (.generatedId id)
  return id

/-- A document with a random identifier. -/
def withMetadata (content : String) (metadata : Metadata) : Run Document := do
  let id ← generateId .random content metadata
  return assemble id content [] metadata

/-- A document with a random identifier and without metadata. -/
def new (content : String) : Run Document :=
  withMetadata content .empty

/-- A document with a generated identifier; a blank one is refused. -/
def withScheme (scheme : IdScheme) (content : String) (metadata : Metadata) :
    Attempt DocumentError Document := do
  let id ← generateId scheme content metadata
  Session.settle (withId id content metadata)

def setEmbedding (document : Document) (embedding : List Float32) : Document :=
  { document with embedding }

def setFormatter (document : Document) (formatter : Formatter) : Document :=
  { document with formatter }

def setMetadata (document : Document) (metadata : Metadata) : Document :=
  { document with metadata }

/-- The content and metadata of a document under the identifier that they determine. -/
def underContentId (document : Document) : Except DocumentError Document := do
  let id := ContentId.derive document.content document.metadata
  let same ← withId id document.content document.metadata
  return same.setFormatter document.formatter

def formatWith (document : Document) (formatter : Formatter) (mode : MetadataMode) :
    Run String :=
  formatter.format document.toRecord mode

def formattedWith (document : Document) (mode : MetadataMode) : Run String :=
  document.formatWith document.formatter mode

def formatted (document : Document) : Run String :=
  document.formattedWith .all

/-- Documents are alike when they have the same identifier and content and alike metadata. -/
def alike (left right : Document) : Bool :=
  left.id == right.id && left.content == right.content && left.metadata.alike right.metadata

/-- The byte that ends each part of an identity; no UTF-8 text holds it. -/
def endByte : UInt8 := 0xFF

def identity (document : Document) : Digest.Bytes :=
  [document.id, document.content, document.metadata.canonical].flatMap fun part =>
    Digest.utf8 part ++ [endByte]

def display (document : Document) : String :=
  "Document\x7bid='" ++ document.id ++ "', metadata=" ++ document.metadata.canonical
    ++ ", content='" ++ document.content ++ "', media=" ++ Media.diagnostics document.media
    ++ "\x7d"

def diagnostic (document : Document) : String :=
  Diagnostic.record "Document" [
    ("id", Text.quoted document.id),
    ("content", Text.quoted document.content),
    ("media", Media.diagnostics document.media),
    ("metadata", document.metadata.diagnostic),
    ("embedding_dimension", toString document.embedding.length),
    ("content_formatter", document.formatter.diagnostic)]

end Document

end Corpus
