import Corpus.Document.Basic

/-!
# Drafts

A draft becomes a document step by step.  A step that is refused leaves the parts of the draft as
they are; the first refusal is what building the draft reports.
-/

namespace Corpus

/-- A document that is being put together. -/
structure Draft where
  id : Option String
  content : String
  media : List Media
  metadata : Metadata
  scheme : IdScheme
  formatter : Option Formatter
  error : Option DocumentError

namespace Draft

/-- The draft before the first step. -/
def blank : Draft where
  id := none
  content := ""
  media := []
  metadata := .empty
  scheme := .random
  formatter := none
  error := none

/-- The same draft with a refusal, unless it has one already. -/
def refuse (draft : Draft) (error : DocumentError) : Draft :=
  { draft with error := draft.error.or (some error) }

/-- Sets the identifier; a blank one is refused. -/
def setId (draft : Draft) (id : String) : Draft :=
  if Text.isBlank id then draft.refuse .emptyId else { draft with id := some id }

def setContent (draft : Draft) (content : String) : Draft :=
  { draft with content }

/-- Replaces all media. -/
def setMedia (draft : Draft) (media : List Media) : Draft :=
  { draft with media }

/-- Adds a medium behind the others. -/
def addMedia (draft : Draft) (medium : Media) : Draft :=
  { draft with media := draft.media ++ [medium] }

/-- Replaces all metadata. -/
def setMetadata (draft : Draft) (metadata : Metadata) : Draft :=
  { draft with metadata }

/-- Sets one entry of the metadata; an empty key or a null is refused. -/
def setEntry (draft : Draft) (key : String) (value : Value) : Draft :=
  if key.isEmpty then draft.refuse .emptyMetadataKey
  else if value.isNull then draft.refuse (.nullMetadataValue key)
  else { draft with metadata := draft.metadata.insert key value }

/-- Sets where the identifier comes from if none is set. -/
def setScheme (draft : Draft) (scheme : IdScheme) : Draft :=
  { draft with scheme }

def setFormatter (draft : Draft) (formatter : Formatter) : Draft :=
  { draft with formatter := some formatter }

/-- One step in putting a document together. -/
inductive Step where
  | id (id : String)
  | content (content : String)
  | media (media : List Media)
  | addMedia (medium : Media)
  | metadata (metadata : Metadata)
  | entry (key : String) (value : Value)
  | scheme (scheme : IdScheme)
  | formatter (formatter : Formatter)

def apply (draft : Draft) : Step → Draft
  | .id id => draft.setId id
  | .content content => draft.setContent content
  | .media media => draft.setMedia media
  | .addMedia medium => draft.addMedia medium
  | .metadata metadata => draft.setMetadata metadata
  | .entry key value => draft.setEntry key value
  | .scheme scheme => draft.setScheme scheme
  | .formatter formatter => draft.setFormatter formatter

/-- The draft after some steps from a blank one. -/
def ofSteps (steps : List Step) : Draft :=
  steps.foldl apply blank

/-- The identifier of the draft: the one that is set, or else a generated one. -/
def chooseId (draft : Draft) : Run String :=
  match draft.id with
  | some id => return id
  | none => Document.generateId draft.scheme draft.content draft.metadata

def build (draft : Draft) : Attempt DocumentError Document := do
  if let some error := draft.error then throw error
  let id ← draft.chooseId
  let document ← Session.settle (Document.ofParts id draft.content draft.media draft.metadata)
  return document.setFormatter (draft.formatter.getD .standard)

def diagnosticError : DocumentError → String
  | .emptyId => "EmptyId"
  | .emptyMetadataKey => "EmptyMetadataKey"
  | .nullMetadataValue key => Diagnostic.record "NullMetadataValue" [("key", Text.quoted key)]

/-- The diagnostic text, without identifier scheme and formatter. -/
def diagnostic (draft : Draft) : String :=
  Diagnostic.openRecord "DocumentBuilder" [
    ("id", Diagnostic.option (draft.id.map Text.quoted)),
    ("content", Text.quoted draft.content),
    ("media", Media.diagnostics draft.media),
    ("metadata", draft.metadata.diagnostic),
    ("error", Diagnostic.option (draft.error.map diagnosticError))]

end Draft

end Corpus
