import Corpus.Formatter.Settings

/-!
# Formatters put together by choices

A template formatter is put together by choices, from the standard one or from another formatter.
What is chosen last counts, and building fails for a template that is blank.
-/

namespace Corpus

/-- A template formatter that is being put together; what is not chosen is as in the standard
one. -/
structure FormatterDraft where
  metadataTemplate : Option String
  metadataSeparator : Option String
  textTemplate : Option String
  hiddenFromInference : KeySet
  hiddenFromEmbed : KeySet

namespace FormatterDraft

/-- A choice for a formatter.  Keys take the place of those that were chosen before. -/
inductive Choice where
  | metadataTemplate (text : String)
  | metadataSeparator (text : String)
  | textTemplate (text : String)
  | hiddenFromInference (keys : List String)
  | hiddenFromEmbed (keys : List String)

/-- The draft without any choice. -/
def blank : FormatterDraft := ⟨none, none, none, .empty, .empty⟩

def ofFormatter (formatter : TemplateFormatter) : FormatterDraft where
  metadataTemplate := some formatter.metadataTemplate
  metadataSeparator := some formatter.metadataSeparator
  textTemplate := some formatter.textTemplate
  hiddenFromInference := formatter.hiddenFromInference
  hiddenFromEmbed := formatter.hiddenFromEmbed

def choose (draft : FormatterDraft) : Choice → FormatterDraft
  | .metadataTemplate text => { draft with metadataTemplate := some text }
  | .metadataSeparator text => { draft with metadataSeparator := some text }
  | .textTemplate text => { draft with textTemplate := some text }
  | .hiddenFromInference keys => { draft with hiddenFromInference := KeySet.ofList keys }
  | .hiddenFromEmbed keys => { draft with hiddenFromEmbed := KeySet.ofList keys }

def chooseAll (draft : FormatterDraft) (choices : List Choice) : FormatterDraft :=
  choices.foldl choose draft

/-- The draft that chooses all that some settings give. -/
def ofSettings (settings : FormatterSettings) : FormatterDraft :=
  blank.chooseAll (
    [.hiddenFromInference settings.hiddenFromInference,
      .hiddenFromEmbed settings.hiddenFromEmbed]
    ++ (settings.metadataTemplate.map Choice.metadataTemplate).toList
    ++ (settings.metadataSeparator.map Choice.metadataSeparator).toList
    ++ (settings.textTemplate.map Choice.textTemplate).toList)

/-- The settings of a draft, which list its keys. -/
def settings (draft : FormatterDraft) : FormatterSettings where
  metadataTemplate := draft.metadataTemplate
  metadataSeparator := draft.metadataSeparator
  textTemplate := draft.textTemplate
  hiddenFromInference := draft.hiddenFromInference.keys
  hiddenFromEmbed := draft.hiddenFromEmbed.keys

/-- The formatter of a draft, with a warning if it drops the content. -/
def build (draft : FormatterDraft) : Attempt FormatterError TemplateFormatter := do
  let standard := TemplateFormatter.standard
  let metadataTemplate ← Session.settle
    (FormatterSettings.template "metadata_template" standard.metadataTemplate
      draft.metadataTemplate)
  let metadataSeparator := draft.metadataSeparator.getD standard.metadataSeparator
  let textTemplate ← Session.settle
    (FormatterSettings.template "text_template" standard.textTemplate draft.textTemplate)
  let formatter : TemplateFormatter := {
    metadataTemplate
    metadataSeparator
    textTemplate
    hiddenFromInference := draft.hiddenFromInference
    hiddenFromEmbed := draft.hiddenFromEmbed }
  unless formatter.keepsContent do
    Session.report (.contentDropped formatter.textTemplate)
  return formatter

end FormatterDraft

end Corpus
