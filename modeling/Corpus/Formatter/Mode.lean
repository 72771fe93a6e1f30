/-!
# Metadata modes

Who a document is rendered for, which decides what metadata takes part.
-/

namespace Corpus

/-- Which metadata takes part in a rendering: all of it, what an embedding model or a language
model may see, or none. -/
inductive MetadataMode where
  | all
  | embed
  | inference
  | none
  deriving DecidableEq, Inhabited

namespace MetadataMode

/-- Every mode, in the order in which they are listed. -/
def modes : List MetadataMode := [.all, .embed, .inference, .none]

def name : MetadataMode → String
  | .all => "all"
  | .embed => "embed"
  | .inference => "inference"
  | .none => "none"

def ofName? (name : String) : Option MetadataMode :=
  modes.find? fun mode => mode.name == name

def diagnostic : MetadataMode → String
  | .all => "All"
  | .embed => "Embed"
  | .inference => "Inference"
  | .none => "None"

end MetadataMode

end Corpus
