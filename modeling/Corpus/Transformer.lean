import Corpus.Document.Basic

/-!
# Attaching formatters

A transformer attaches a formatter to documents.  Where both the document's formatter and the new
one go by templates, their hidden keys are joined; the templates are those of the document, or
those of the new formatter if it is told to bring its own.  In every other case the new formatter
takes the place of the old one.
-/

namespace Corpus

/-- A formatter to attach, and whether its templates take the place of those of the documents. -/
structure Transformer where
  formatter : Formatter
  takeTemplates : Bool

namespace Transformer

/-- The formatter of a document after the transformer has been applied. -/
def combine (transformer : Transformer) (current : Formatter) : Formatter :=
  match current, transformer.formatter with
  | .template current, .template incoming =>
    if transformer.takeTemplates then .template (incoming.mergeExclusions current)
    else .template (current.mergeExclusions incoming)
  | _, incoming => incoming

def apply (transformer : Transformer) (document : Document) : Document :=
  document.setFormatter (transformer.combine document.formatter)

def transform (transformer : Transformer) (documents : List Document) : List Document :=
  documents.map transformer.apply

/-- Applies some transformers to documents, one after the other. -/
def transformAll (transformers : List Transformer) (documents : List Document) : List Document :=
  transformers.foldl (fun documents transformer => transformer.transform documents) documents

end Transformer

end Corpus
