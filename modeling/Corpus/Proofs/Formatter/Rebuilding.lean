import Corpus.Formatter.Draft
import Corpus.Proofs.Formatter.Chain
import Corpus.Proofs.Formatter.ContentWarning

/-!
# Formatters and their settings

However a template formatter comes about, its templates are not blank, so its own settings give it
back, whether they are a draft, which holds its hidden keys as sets, or settings that list them in
any order.  Building fails exactly for a template that is given and blank.
-/

namespace Corpus

namespace FormatterDraft

theorem build_eq (draft : FormatterDraft) : draft.build = draft.settings.build := by
  funext session
  rw [build, FormatterSettings.build, FormatterSettings.resolve]
  simp only [settings, KeySet.ofList_keys, Session.attempt_bind, Session.attempt_settle]
  cases FormatterSettings.template "metadata_template" _ draft.metadataTemplate with
  | error error => rfl
  | ok metadataTemplate =>
      cases FormatterSettings.template "text_template" _ draft.textTemplate with
      | error error => rfl
      | ok textTemplate => rfl

theorem ofSettings_eq (settings : FormatterSettings) :
    ofSettings settings = {
      metadataTemplate := settings.metadataTemplate
      metadataSeparator := settings.metadataSeparator
      textTemplate := settings.textTemplate
      hiddenFromInference := KeySet.ofList settings.hiddenFromInference
      hiddenFromEmbed := KeySet.ofList settings.hiddenFromEmbed } := by
  obtain ⟨metadataTemplate, metadataSeparator, textTemplate, _, _⟩ := settings
  cases metadataTemplate <;> cases metadataSeparator <;> cases textTemplate <;> rfl

/-- Settings give the formatter of the draft that chooses what they give. -/
theorem build_ofSettings (settings : FormatterSettings) :
    (ofSettings settings).build = settings.build := by
  have resolved : (ofSettings settings).settings.resolve = settings.resolve := by
    rw [ofSettings_eq]
    simp only [FormatterSettings.resolve, FormatterDraft.settings, KeySet.ofList_keys]
  rw [build_eq, FormatterSettings.build, FormatterSettings.build, resolved]

end FormatterDraft

namespace Text

/-- Whether a text holds more than white space. -/
def HasText (text : String) : Prop :=
  ∃ char ∈ text.toList, isSpace char = false

theorem isBlank_eq_false_iff {text : String} : isBlank text = false ↔ HasText text := by
  simp [isBlank, HasText]

end Text

namespace FormatterSettings

open Text (HasText)

/-- A template is given and holds nothing but white space. -/
def GivenBlank (template : Option String) : Prop :=
  ∃ given, template = some given ∧ ¬HasText given

/-- The formatter of some settings if none of their templates is refused. -/
def chosen (settings : FormatterSettings) : TemplateFormatter where
  metadataTemplate := settings.metadataTemplate.getD TemplateFormatter.standard.metadataTemplate
  metadataSeparator := settings.metadataSeparator.getD TemplateFormatter.standard.metadataSeparator
  textTemplate := settings.textTemplate.getD TemplateFormatter.standard.textTemplate
  hiddenFromInference := KeySet.ofList settings.hiddenFromInference
  hiddenFromEmbed := KeySet.ofList settings.hiddenFromEmbed

theorem any_isBlank_iff {template : Option String} :
    template.any Text.isBlank = true ↔ GivenBlank template := by
  cases template with
  | none => simp [GivenBlank]
  | some given => simp [GivenBlank, ← Text.isBlank_eq_false_iff]

theorem resolve_eq (settings : FormatterSettings) :
    settings.resolve =
      if settings.metadataTemplate.any Text.isBlank then
        .error (.emptyTemplate "metadata_template")
      else if settings.textTemplate.any Text.isBlank then .error (.emptyTemplate "text_template")
      else .ok settings.chosen := by
  have checked (field standard : String) (chosen : Option String) :
      template field standard chosen =
        if chosen.any Text.isBlank then .error (.emptyTemplate field)
        else .ok (chosen.getD standard) := by
    cases chosen <;> rfl
  rw [resolve, checked, checked]
  cases settings.metadataTemplate.any Text.isBlank with
  | true => rfl
  | false =>
      cases settings.textTemplate.any Text.isBlank with
      | true => rfl
      | false => rfl

theorem fst_build (settings : FormatterSettings) (session : Session) :
    (settings.build session).1 = settings.resolve := by
  rw [build_run]
  cases settings.resolve <;> rfl

/-- Building fails exactly for a template that is given and blank; the metadata template is checked
first. -/
theorem resolve_eq_error_iff {settings : FormatterSettings} {error : FormatterError} :
    settings.resolve = .error error ↔
      GivenBlank settings.metadataTemplate ∧ .emptyTemplate "metadata_template" = error ∨
        ¬GivenBlank settings.metadataTemplate ∧ GivenBlank settings.textTemplate ∧
          .emptyTemplate "text_template" = error := by
  rw [resolve_eq, ← any_isBlank_iff, ← any_isBlank_iff]
  cases settings.metadataTemplate.any Text.isBlank with
  | true => simp
  | false => cases settings.textTemplate.any Text.isBlank <;> simp

theorem exists_resolve_eq_error_iff {settings : FormatterSettings} :
    (∃ error, settings.resolve = .error error) ↔
      GivenBlank settings.metadataTemplate ∨ GivenBlank settings.textTemplate := by
  simp only [resolve_eq_error_iff]
  constructor
  · rintro ⟨error, ⟨given, -⟩ | ⟨-, given, -⟩⟩
    · exact .inl given
    · exact .inr given
  · by_cases given : GivenBlank settings.metadataTemplate
    · exact fun _ => ⟨_, .inl ⟨given, rfl⟩⟩
    · exact fun either => ⟨_, .inr ⟨given, either.resolve_left given, rfl⟩⟩

theorem resolve_eq_ok_iff {settings : FormatterSettings} {formatter : TemplateFormatter} :
    settings.resolve = .ok formatter ↔
      ¬GivenBlank settings.metadataTemplate ∧ ¬GivenBlank settings.textTemplate ∧
        settings.chosen = formatter := by
  rw [resolve_eq, ← any_isBlank_iff, ← any_isBlank_iff]
  cases settings.metadataTemplate.any Text.isBlank with
  | true => simp
  | false => cases settings.textTemplate.any Text.isBlank <;> simp

end FormatterSettings

namespace TemplateFormatter

open Text (HasText)

/-- Both templates of a formatter hold text. -/
structure Filled (formatter : TemplateFormatter) : Prop where
  metadataTemplate : HasText formatter.metadataTemplate
  textTemplate : HasText formatter.textTemplate

/-- The template formatters that can come about: the standard one, what is built from choices, with
or without a formatter to start from, or from settings, and what merging two of them or attaching
one of them to a document gives. -/
inductive Obtainable : TemplateFormatter → Prop where
  | standard : Obtainable .standard
  | built {choices : List FormatterDraft.Choice} {session later : Session}
      {formatter : TemplateFormatter} :
      (FormatterDraft.blank.chooseAll choices).build session = (.ok formatter, later) →
      Obtainable formatter
  | rebuilt {start : TemplateFormatter} {choices : List FormatterDraft.Choice}
      {session later : Session} {formatter : TemplateFormatter} :
      Obtainable start →
      ((FormatterDraft.ofFormatter start).chooseAll choices).build session =
        (.ok formatter, later) →
      Obtainable formatter
  | configured {settings : FormatterSettings} {session later : Session}
      {formatter : TemplateFormatter} :
      settings.build session = (.ok formatter, later) → Obtainable formatter
  | merged {formatter other : TemplateFormatter} :
      Obtainable formatter → Obtainable other → Obtainable (formatter.mergeExclusions other)
  | attached {transformer : Transformer} {document : Document} {formatter : TemplateFormatter} :
      (∀ current, document.formatter = .template current → Obtainable current) →
      (∀ incoming, transformer.formatter = .template incoming → Obtainable incoming) →
      (transformer.apply document).formatter = .template formatter →
      Obtainable formatter

theorem filled_standard : Filled standard where
  metadataTemplate := Text.isBlank_eq_false_iff.mp (by decide)
  textTemplate := Text.isBlank_eq_false_iff.mp (by decide)

theorem Filled.of_templates {formatter other : TemplateFormatter} (filled : other.Filled)
    (same : formatter.templates = other.templates) : formatter.Filled := by
  simp only [templates, Prod.mk.injEq] at same
  obtain ⟨metadataTemplate, -, textTemplate⟩ := same
  exact ⟨metadataTemplate ▸ filled.metadataTemplate, textTemplate ▸ filled.textTemplate⟩

theorem hasText_getD {template : Option String} {standard : String} (hasText : HasText standard)
    (notBlank : ¬FormatterSettings.GivenBlank template) : HasText (template.getD standard) := by
  cases template with
  | none => exact hasText
  | some given =>
      rw [FormatterSettings.GivenBlank] at notBlank
      simpa using notBlank

theorem filled_of_build {draft : FormatterDraft} {session later : Session}
    {formatter : TemplateFormatter} (built : draft.build session = (.ok formatter, later)) :
    formatter.Filled := by
  rw [FormatterDraft.build_eq] at built
  have resolved : draft.settings.resolve = .ok formatter := by
    rw [← FormatterSettings.fst_build, built]
  obtain ⟨metadataGiven, textGiven, rfl⟩ := FormatterSettings.resolve_eq_ok_iff.mp resolved
  exact ⟨hasText_getD filled_standard.metadataTemplate metadataGiven,
    hasText_getD filled_standard.textTemplate textGiven⟩

theorem filled_of_apply {transformer : Transformer} {document : Document}
    {formatter : TemplateFormatter}
    (currentFilled : ∀ current, document.formatter = .template current → current.Filled)
    (incomingFilled : ∀ incoming, transformer.formatter = .template incoming → incoming.Filled)
    (attached : (transformer.apply document).formatter = .template formatter) :
    formatter.Filled := by
  have attaches : transformer.Attaches document.formatter (.template formatter) :=
    Transformer.attaches_iff.mpr attached.symm
  generalize current : document.formatter = old at attaches
  generalize next : Formatter.template formatter = new at attaches
  cases attaches with
  | replaced _ => exact incomingFilled formatter next.symm
  | joined incomingIs joins =>
      cases next
      have templates := joins.templates
      split at templates
      · exact (incomingFilled _ incomingIs).of_templates templates
      · exact (currentFilled _ current).of_templates templates

theorem Obtainable.filled {formatter : TemplateFormatter} (obtainable : Obtainable formatter) :
    formatter.Filled := by
  induction obtainable with
  | standard => exact filled_standard
  | built made => exact filled_of_build made
  | rebuilt _ made _ => exact filled_of_build made
  | configured made =>
      rw [← FormatterDraft.build_ofSettings] at made
      exact filled_of_build made
  | merged _ _ filled _ => exact filled.of_templates rfl
  | attached _ _ attached currentFilled incomingFilled =>
      exact filled_of_apply currentFilled incomingFilled attached

/-- The settings of a filled formatter give it back, however they list its hidden keys. -/
theorem Filled.resolve_settings {formatter : TemplateFormatter} (filled : formatter.Filled)
    {inferenceKeys embedKeys : List String}
    (inference : ∀ key, key ∈ inferenceKeys ↔ key ∈ formatter.hiddenFromInference.keys)
    (embed : ∀ key, key ∈ embedKeys ↔ key ∈ formatter.hiddenFromEmbed.keys) :
    FormatterSettings.resolve ⟨some formatter.metadataTemplate, some formatter.metadataSeparator,
      some formatter.textTemplate, inferenceKeys, embedKeys⟩ = .ok formatter := by
  have inferenceSet : KeySet.ofList inferenceKeys = formatter.hiddenFromInference :=
    KeySet.ext_keys fun key => KeySet.mem_keys_ofList.trans (inference key)
  have embedSet : KeySet.ofList embedKeys = formatter.hiddenFromEmbed :=
    KeySet.ext_keys fun key => KeySet.mem_keys_ofList.trans (embed key)
  refine FormatterSettings.resolve_eq_ok_iff.mpr ⟨?_, ?_, ?_⟩
  · simpa [FormatterSettings.GivenBlank] using filled.metadataTemplate
  · simpa [FormatterSettings.GivenBlank] using filled.textTemplate
  · simp only [FormatterSettings.chosen, inferenceSet, embedSet]
    rfl

/-- Every template formatter that can come about holds text in both templates, and is built again
from the draft that starts with it and from settings that list its hidden keys in any order and as
often as they like.  Whatever the settings, building fails exactly if a template is given and blank,
and names the metadata template if that one is and the text template otherwise. -/
theorem Obtainable.rebuilds {formatter : TemplateFormatter} (obtainable : Obtainable formatter)
    (session : Session) :
    formatter.Filled ∧
    (∃ later, (FormatterDraft.ofFormatter formatter).build session = (.ok formatter, later)) ∧
    (∀ inferenceKeys embedKeys : List String,
      (∀ key, key ∈ inferenceKeys ↔ key ∈ formatter.hiddenFromInference.keys) →
      (∀ key, key ∈ embedKeys ↔ key ∈ formatter.hiddenFromEmbed.keys) →
      ∃ later, FormatterSettings.build
        ⟨some formatter.metadataTemplate, some formatter.metadataSeparator,
          some formatter.textTemplate, inferenceKeys, embedKeys⟩ session =
        (.ok formatter, later)) ∧
    ∀ settings : FormatterSettings,
      ((∃ error, (settings.build session).1 = .error error) ↔
        FormatterSettings.GivenBlank settings.metadataTemplate ∨
          FormatterSettings.GivenBlank settings.textTemplate) ∧
      ∀ error, (settings.build session).1 = .error error →
        (FormatterSettings.GivenBlank settings.metadataTemplate →
          error = .emptyTemplate "metadata_template") ∧
        (¬FormatterSettings.GivenBlank settings.metadataTemplate →
          error = .emptyTemplate "text_template") := by
  have filled := obtainable.filled
  have built {settings : FormatterSettings} (resolved : settings.resolve = .ok formatter) :
      ∃ later, settings.build session = (.ok formatter, later) := by
    rw [← FormatterSettings.fst_build settings session] at resolved
    exact ⟨_, Prod.ext resolved rfl⟩
  refine ⟨filled, ?_, ?_, ?_⟩
  · rw [FormatterDraft.build_eq]
    exact built (filled.resolve_settings (fun _ => Iff.rfl) fun _ => Iff.rfl)
  · intro inferenceKeys embedKeys inference embed
    exact built (filled.resolve_settings inference embed)
  · intro settings
    rw [FormatterSettings.fst_build]
    refine ⟨FormatterSettings.exists_resolve_eq_error_iff, fun error failed => ?_⟩
    rcases FormatterSettings.resolve_eq_error_iff.mp failed with
      ⟨given, rfl⟩ | ⟨notGiven, -, rfl⟩
    · exact ⟨fun _ => rfl, fun notGiven => absurd given notGiven⟩
    · exact ⟨fun given => absurd given notGiven, fun _ => rfl⟩

/-- A formatter of settings, merged with one of a draft, is built again from settings that list its
keys in another order and more than once. -/
theorem rebuilds_merged :
    let session := Session.start fun _ => ""
    let configured : TemplateFormatter :=
      { standard with
        metadataSeparator := " "
        hiddenFromInference := KeySet.ofList ["b", "a", "b"] }
    let built : TemplateFormatter :=
      { standard with textTemplate := "-", hiddenFromEmbed := KeySet.ofList ["z"] }
    let merged := configured.mergeExclusions built
    merged.Obtainable ∧
      (∀ key, key ∈ ["b", "a", "a"] ↔ key ∈ merged.hiddenFromInference.keys) ∧
      (∀ key, key ∈ ["z", "z"] ↔ key ∈ merged.hiddenFromEmbed.keys) ∧
      ∃ later, FormatterSettings.build
        ⟨some standard.metadataTemplate, some " ", some standard.textTemplate, ["b", "a", "a"],
          ["z", "z"]⟩ session = (.ok merged, later) := by
  intro session configured built merged
  have isConfigured : FormatterSettings.build ⟨none, some " ", none, ["b", "a", "b"], []⟩ session =
      (.ok configured, session) := rfl
  have isBuilt : (FormatterDraft.blank.chooseAll
      [.hiddenFromEmbed ["x"], .textTemplate "-", .hiddenFromEmbed ["z"]]).build session =
      (.ok built, session.reporting [.contentDropped "-"]) := rfl
  have obtainable : merged.Obtainable := .merged (.configured isConfigured) (.built isBuilt)
  have inferenceKeys : merged.hiddenFromInference.keys = ["a", "b"] := by decide
  have embedKeys : merged.hiddenFromEmbed.keys = ["z"] := by decide
  have inference (key : String) :
      key ∈ ["b", "a", "a"] ↔ key ∈ merged.hiddenFromInference.keys := by
    simp [inferenceKeys, or_comm]
  have embed (key : String) : key ∈ ["z", "z"] ↔ key ∈ merged.hiddenFromEmbed.keys := by
    simp [embedKeys]
  obtain ⟨-, -, listed, -⟩ := obtainable.rebuilds session
  exact ⟨obtainable, inference, embed, listed _ _ inference embed⟩

end TemplateFormatter

end Corpus
