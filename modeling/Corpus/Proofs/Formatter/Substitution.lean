import Corpus.Proofs.Formatter.ContentWarning
import Corpus.Proofs.Template.Sections

/-!
# Renderings as substitutions

A rendering is what its two templates say, each cut at its placeholders, with the key and the value
of an entry in the places of the metadata template, and the entries and the content in those of the
text template.  A text that is put in stays as it is, also where it reads like a placeholder.
-/

namespace Corpus

namespace TemplateFormatter

open Template (Cut Sections Separate Simultaneous slots)

/-- The placeholders of a metadata template. -/
def entryPlaceholders : List (List Char) :=
  [keyPlaceholder.toList, valuePlaceholder.toList]

/-- The placeholders of a text template. -/
def textPlaceholders : List (List Char) :=
  [metadataPlaceholder.toList, contentPlaceholder.toList]

/-- What the placeholders of a metadata template stand for. -/
def entryValue (entry : String × Value) (placeholder : List Char) : List Char :=
  if placeholder = keyPlaceholder.toList then entry.1.toList
  else (Metadata.render entry.2).toList

/-- What the placeholders of a text template stand for. -/
def textValue (metadata content placeholder : List Char) : List Char :=
  if placeholder = metadataPlaceholder.toList then metadata else content

theorem simultaneous_entryPlaceholders : Simultaneous entryPlaceholders := by
  apply Template.simultaneous_of_separate
  intro value
  constructor
  · simp [slots, entryPlaceholders, keyPlaceholder, valuePlaceholder]
  · simp [slots, entryPlaceholders, keyPlaceholder, valuePlaceholder]

theorem simultaneous_textPlaceholders : Simultaneous textPlaceholders := by
  apply Template.simultaneous_of_separate
  intro value
  exact separate_textSlots _ _

theorem renderEntry_eq_fill (formatter : TemplateFormatter) (entry : String × Value) :
    formatter.renderEntry entry =
      Template.fill (slots entryPlaceholders (entryValue entry))
        formatter.metadataTemplate.toList := by
  have different : valuePlaceholder.toList ≠ keyPlaceholder.toList := by decide
  simp only [renderEntry, slots, entryPlaceholders, List.map_cons, List.map_nil, entryValue,
    different, if_true, if_false]

theorem toList_render_eq_fill (formatter : TemplateFormatter) (content : String)
    (metadata : Metadata) (mode : MetadataMode) :
    (formatter.render content metadata mode).toList =
      Template.fill (slots textPlaceholders
        (textValue (formatter.renderMetadata metadata mode) content.toList))
        formatter.textTemplate.toList := by
  have different : contentPlaceholder.toList ≠ metadataPlaceholder.toList := by decide
  simp only [toList_render, textSlots, slots, textPlaceholders, List.map_cons, List.map_nil,
    textValue, different, if_true, if_false]

/-- Both templates are filled by simultaneous substitution, whatever is put in.  A formatter hence
renders every document by the same cuts of its templates, with the visible entries and the content
of the document in their places as they are. -/
theorem render_substitutes (formatter : TemplateFormatter) :
    Simultaneous entryPlaceholders ∧ Simultaneous textPlaceholders ∧
    ∃ entrySections textSections : Sections,
      Cut entryPlaceholders formatter.metadataTemplate.toList entrySections ∧
      Cut textPlaceholders formatter.textTemplate.toList textSections ∧
      ∀ (content : String) (metadata : Metadata) (mode : MetadataMode),
        let entries := (formatter.select metadata mode).map fun entry =>
          entrySections.joined (entryValue entry)
        (formatter.render content metadata mode).toList =
          textSections.joined
            (textValue (formatter.metadataSeparator.toList.intercalate entries)
              content.toList) := by
  have entrywise := simultaneous_entryPlaceholders
  have whole := simultaneous_textPlaceholders
  refine ⟨entrywise, whole, ?_⟩
  obtain ⟨entrySections, entryCut, -, -, entryFilled⟩ :=
    entrywise.sections formatter.metadataTemplate.toList
  obtain ⟨textSections, textCut, -, -, textFilled⟩ := whole.sections formatter.textTemplate.toList
  refine ⟨entrySections, textSections, entryCut, textCut, ?_⟩
  intro content metadata mode entries
  have rendered : formatter.renderMetadata metadata mode =
      formatter.metadataSeparator.toList.intercalate entries := by
    simp only [renderMetadata, entries]
    congr 1
    apply List.map_congr_left
    intro entry _
    rw [renderEntry_eq_fill, entryFilled]
  rw [toList_render_eq_fill, textFilled, rendered]

/-- Placeholders in a key, a value and the content stay where they are put in. -/
example :
    standard.render "\x7bmetadata_string\x7d" (.singleton "\x7bvalue\x7d" (.string "\x7bkey\x7d"))
      .all = "\x7bvalue\x7d: \x7bkey\x7d\n\n\x7bmetadata_string\x7d" := by
  decide +kernel

end TemplateFormatter

end Corpus
