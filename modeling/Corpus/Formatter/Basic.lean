import Corpus.Formatter.Template
import Corpus.Media.Basic

/-!
# Content formatters

A formatter turns a record, the parts of a document that carry its information, into one text.  It
is driven by templates or is a custom one, which may look at the whole record.
-/

namespace Corpus

/-- The parts of a document that carry its information. -/
structure Record where
  id : String
  content : String
  media : List Media
  metadata : Metadata
  embedding : List Float32

/-- A formatter of its own kind; `label` is its diagnostic text. -/
structure CustomFormatter where
  label : String
  render : Record → MetadataMode → String

/-- How documents are rendered. -/
inductive Formatter where
  | template (formatter : TemplateFormatter)
  | custom (formatter : CustomFormatter)

namespace Formatter

/-- The formatter that is used where no other is set. -/
def standard : Formatter := .template .standard

def contentOnly : Formatter :=
  .custom ⟨"ContentOnly", fun record _ => record.content⟩

/-- A formatter that shows what it is given: the mode, the count of metadata and the content. -/
def echo : Formatter :=
  .custom ⟨"Echo", fun record mode =>
    mode.diagnostic ++ "|" ++ toString record.metadata.size ++ "|" ++ record.content⟩

def template? : Formatter → Option TemplateFormatter
  | .template formatter => some formatter
  | .custom _ => none

def render (formatter : Formatter) (record : Record) (mode : MetadataMode) : String :=
  match formatter with
  | .template formatter => formatter.render record.content record.metadata mode
  | .custom formatter => formatter.render record mode

/-- The rendering of a record, reported if it goes by templates. -/
def format (formatter : Formatter) (record : Record) (mode : MetadataMode) : Run String := do
  if let .template templates := formatter then
    Session.report
      (.formatting record.id mode (templates.select record.metadata mode).length)
  return formatter.render record mode

def diagnostic : Formatter → String
  | .template formatter => formatter.diagnostic
  | .custom formatter => formatter.label

end Formatter

end Corpus
