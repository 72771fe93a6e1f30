import Corpus.Error
import Corpus.Metadata
import Corpus.Session
import Corpus.Template
import Corpus.Text.Blank

/-!
# Template formatters

A template formatter renders a document by two templates: one for each visible entry of its
metadata, and one for the whole text.  Which entries are visible depends on the mode.
-/

namespace Corpus

/-- A formatter that is driven by templates. -/
structure TemplateFormatter where
  metadataTemplate : String
  metadataSeparator : String
  textTemplate : String
  /-- The keys that a language model does not see. -/
  hiddenFromInference : KeySet
  /-- The keys that an embedding model does not see. -/
  hiddenFromEmbed : KeySet
  deriving DecidableEq

namespace TemplateFormatter

/-- The placeholder of the content in a text template. -/
def contentPlaceholder : String := "\x7bcontent\x7d"

/-- The placeholder of the rendered metadata in a text template. -/
def metadataPlaceholder : String := "\x7bmetadata_string\x7d"

/-- The placeholder of the key in a metadata template. -/
def keyPlaceholder : String := "\x7bkey\x7d"

/-- The placeholder of the value in a metadata template. -/
def valuePlaceholder : String := "\x7bvalue\x7d"

/-- The formatter that is used where no other is set. -/
def standard : TemplateFormatter where
  metadataTemplate := keyPlaceholder ++ ": " ++ valuePlaceholder
  metadataSeparator := "\n"
  textTemplate := metadataPlaceholder ++ "\n\n" ++ contentPlaceholder
  hiddenFromInference := .empty
  hiddenFromEmbed := .empty

/-- The same templates, with the hidden keys of both formatters. -/
def mergeExclusions (formatter other : TemplateFormatter) : TemplateFormatter :=
  { formatter with
    hiddenFromInference := KeySet.union formatter.hiddenFromInference other.hiddenFromInference
    hiddenFromEmbed := KeySet.union formatter.hiddenFromEmbed other.hiddenFromEmbed }

def shows (formatter : TemplateFormatter) (mode : MetadataMode) (key : String) : Bool :=
  match mode with
  | .all => true
  | .none => false
  | .inference => !formatter.hiddenFromInference.contains key
  | .embed => !formatter.hiddenFromEmbed.contains key

/-- The visible metadata, by ascending key. -/
def select (formatter : TemplateFormatter) (metadata : Metadata) (mode : MetadataMode) :
    List (String × Value) :=
  metadata.entries.filter fun entry => formatter.shows mode entry.1

def renderEntry (formatter : TemplateFormatter) (entry : String × Value) : List Char :=
  Template.fill
    [⟨keyPlaceholder.toList, entry.1.toList⟩,
      ⟨valuePlaceholder.toList, (Metadata.render entry.2).toList⟩]
    formatter.metadataTemplate.toList

/-- The rendering of the visible metadata, the separator between its entries. -/
def renderMetadata (formatter : TemplateFormatter) (metadata : Metadata) (mode : MetadataMode) :
    List Char :=
  formatter.metadataSeparator.toList.intercalate
    ((formatter.select metadata mode).map formatter.renderEntry)

def render (formatter : TemplateFormatter) (content : String) (metadata : Metadata)
    (mode : MetadataMode) : String :=
  String.ofList (Template.fill
    [⟨metadataPlaceholder.toList, formatter.renderMetadata metadata mode⟩,
      ⟨contentPlaceholder.toList, content.toList⟩]
    formatter.textTemplate.toList)

/-- The visible entries of a listing in any order, sorted by key. -/
def selectListed (formatter : TemplateFormatter) (listing : List (String × Value))
    (mode : MetadataMode) : List (String × Value) :=
  (listing.filter fun entry => formatter.shows mode entry.1).mergeSort
    fun left right => decide (left.1 ≤ right.1)

/-- The rendering of a content with the visible entries of a listing. -/
def renderListed (formatter : TemplateFormatter) (content : String)
    (listing : List (String × Value)) (mode : MetadataMode) : String :=
  let metadata := formatter.metadataSeparator.toList.intercalate
    ((formatter.selectListed listing mode).map formatter.renderEntry)
  String.ofList (Template.fill
    [⟨metadataPlaceholder.toList, metadata⟩, ⟨contentPlaceholder.toList, content.toList⟩]
    formatter.textTemplate.toList)

/-- Whether the text template has a place for the content. -/
def keepsContent (formatter : TemplateFormatter) : Bool :=
  Template.occurs contentPlaceholder.toList formatter.textTemplate.toList

def diagnostic (formatter : TemplateFormatter) : String :=
  Diagnostic.record "DefaultContentFormatter" [
    ("metadata_template", Text.quoted formatter.metadataTemplate),
    ("metadata_separator", Text.quoted formatter.metadataSeparator),
    ("text_template", Text.quoted formatter.textTemplate),
    ("excluded_inference_metadata_keys",
      Diagnostic.set (formatter.hiddenFromInference.keys.map Text.quoted)),
    ("excluded_embed_metadata_keys",
      Diagnostic.set (formatter.hiddenFromEmbed.keys.map Text.quoted))]

end TemplateFormatter

end Corpus
