import Corpus.Formatter.Template
import Corpus.Json.Decode

/-!
# Formatter settings

Settings name the templates and hidden keys of a template formatter; what is missing takes its
standard value.  A template that is given must not be blank.
-/

namespace Corpus

/-- The settings of a template formatter. -/
structure FormatterSettings where
  metadataTemplate : Option String
  metadataSeparator : Option String
  textTemplate : Option String
  hiddenFromInference : List String
  hiddenFromEmbed : List String
  deriving DecidableEq

namespace FormatterSettings

/-- The settings without any choice. -/
def standard : FormatterSettings := ⟨none, none, none, [], []⟩

def ofFormatter (formatter : TemplateFormatter) : FormatterSettings where
  metadataTemplate := some formatter.metadataTemplate
  metadataSeparator := some formatter.metadataSeparator
  textTemplate := some formatter.textTemplate
  hiddenFromInference := formatter.hiddenFromInference.keys
  hiddenFromEmbed := formatter.hiddenFromEmbed.keys

/-- A template that is given or takes its standard value; a blank one is refused. -/
def template (field standard : String) : Option String → Except FormatterError String
  | none => .ok standard
  | some given => if Text.isBlank given then .error (.emptyTemplate field) else .ok given

def resolve (settings : FormatterSettings) : Except FormatterError TemplateFormatter := do
  let standard := TemplateFormatter.standard
  let metadataTemplate ←
    template "metadata_template" standard.metadataTemplate settings.metadataTemplate
  let textTemplate ← template "text_template" standard.textTemplate settings.textTemplate
  return {
    metadataTemplate
    metadataSeparator := settings.metadataSeparator.getD standard.metadataSeparator
    textTemplate
    hiddenFromInference := KeySet.ofList settings.hiddenFromInference
    hiddenFromEmbed := KeySet.ofList settings.hiddenFromEmbed }

/-- The formatter that the settings describe, with a warning if it drops the content. -/
def build (settings : FormatterSettings) : Attempt FormatterError TemplateFormatter := do
  let formatter ← Session.settle settings.resolve
  unless formatter.keepsContent do
    Session.report (.contentDropped formatter.textTemplate)
  return formatter

/-- The settings as a JSON object; a missing template or separator is left out. -/
def json (settings : FormatterSettings) : Json :=
  let text := fun (name : String) (value : Option String) =>
    (value.map fun text => (name, Json.string text)).toList
  .object
    (text "metadata_template" settings.metadataTemplate
      ++ text "metadata_separator" settings.metadataSeparator
      ++ text "text_template" settings.textTemplate
      ++ [("excluded_inference_metadata_keys", .array (settings.hiddenFromInference.map .string)),
        ("excluded_embed_metadata_keys", .array (settings.hiddenFromEmbed.map .string))])

/-! ## Reading -/

/-- Settings while they are being read. -/
structure Partial where
  metadataTemplate : Option (Option String)
  metadataSeparator : Option (Option String)
  textTemplate : Option (Option String)
  hiddenFromInference : Option (List String)
  hiddenFromEmbed : Option (List String)

def decodeKeys : Source → Outline → Decode.Decoded (List String) :=
  Decode.sequence fun _ => Decode.string

def shape : Decode.Shape Partial where
  expected := "struct FormatterConfig"
  fields := [
    { name := "metadata_template"
      isRead := fun settings => settings.metadataTemplate.isSome
      read := fun _ outline settings => do
        let text ← Decode.nullable Decode.string outline
        return { settings with metadataTemplate := some text }
      optional := true },
    { name := "metadata_separator"
      isRead := fun settings => settings.metadataSeparator.isSome
      read := fun _ outline settings => do
        let text ← Decode.nullable Decode.string outline
        return { settings with metadataSeparator := some text }
      optional := true },
    { name := "text_template"
      isRead := fun settings => settings.textTemplate.isSome
      read := fun _ outline settings => do
        let text ← Decode.nullable Decode.string outline
        return { settings with textTemplate := some text }
      optional := true },
    { name := "excluded_inference_metadata_keys"
      isRead := fun settings => settings.hiddenFromInference.isSome
      read := fun source outline settings => do
        let keys ← decodeKeys source outline
        return { settings with hiddenFromInference := some keys }
      optional := true },
    { name := "excluded_embed_metadata_keys"
      isRead := fun settings => settings.hiddenFromEmbed.isSome
      read := fun source outline settings => do
        let keys ← decodeKeys source outline
        return { settings with hiddenFromEmbed := some keys }
      optional := true }]

def decode (source : Source) (outline : Outline) : Decode.Decoded FormatterSettings := do
  let settings ← Decode.record shape ⟨none, none, none, none, none⟩ source outline
  return ⟨settings.metadataTemplate.join, settings.metadataSeparator.join,
    settings.textTemplate.join, settings.hiddenFromInference.getD [],
    settings.hiddenFromEmbed.getD []⟩

end FormatterSettings

namespace MetadataMode

def names : List String := modes.map name

/-- The mode of a known name. -/
def ofKnown (name : String) : Decode.Decoded MetadataMode :=
  match ofName? name with
  | some mode => .ok mode
  | Option.none => .error (.mismatch (.unknownVariant name names))

def decode : Source → Outline → Decode.Decoded MetadataMode :=
  Decode.choice names ofKnown fun _ name content => do
    Decode.noContent content
    ofKnown name

end MetadataMode

end Corpus
