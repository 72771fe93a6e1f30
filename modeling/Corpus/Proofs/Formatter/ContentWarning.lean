import Corpus.Formatter.Settings
import Corpus.Proofs.Formatter.Visibility
import Corpus.Proofs.Template.Filling

/-!
# When building a formatter warns

A formatter that is built comes with a warning if its text template has no place for the content.
The check for the warning looks for a substring, while rendering scans the template from left to
right and also takes the placeholder of the metadata out of it.  Both find the same templates:
without a warning every rendering holds the content, and with one no rendering depends on it.
-/

namespace Corpus

namespace TemplateFormatter

open Template (Slot Separate)

/-- What a text template is filled with. -/
def textSlots (metadata content : List Char) : List Slot :=
  [⟨metadataPlaceholder.toList, metadata⟩, ⟨contentPlaceholder.toList, content⟩]

theorem separate_textSlots (metadata content : List Char) :
    Separate (textSlots metadata content) := by
  constructor
  · simp [textSlots, metadataPlaceholder, contentPlaceholder]
  · simp [textSlots, metadataPlaceholder, contentPlaceholder]

theorem toList_render (formatter : TemplateFormatter) (content : String) (metadata : Metadata)
    (mode : MetadataMode) :
    (formatter.render content metadata mode).toList =
      Template.fill (textSlots (formatter.renderMetadata metadata mode) content.toList)
        formatter.textTemplate.toList := by
  rw [render, String.toList_ofList]
  rfl

/-- Where the text template has a place for the content, a rendering holds the content. -/
theorem content_infix_render {formatter : TemplateFormatter}
    (kept : formatter.keepsContent = true) (content : String) (metadata : Metadata)
    (mode : MetadataMode) :
    content.toList <:+: (formatter.render content metadata mode).toList := by
  obtain ⟨before, after, parts⟩ := Template.occurs_iff.mp kept
  let slots := textSlots (formatter.renderMetadata metadata mode) content.toList
  have separate : Separate slots := separate_textSlots ..
  have place : ⟨contentPlaceholder.toList, content.toList⟩ ∈ slots :=
    List.mem_cons_of_mem _ (List.mem_singleton_self _)
  refine ⟨Template.fill slots before, Template.fill slots after, ?_⟩
  rw [toList_render, ← parts, List.append_assoc, List.append_assoc,
    separate.fill_append place before after]

theorem render_eq_of_dropped {formatter : TemplateFormatter}
    (dropped : formatter.keepsContent = false) (content other : String) (metadata : Metadata)
    (mode : MetadataMode) :
    formatter.render content metadata mode = formatter.render other metadata mode := by
  have absent : ¬contentPlaceholder.toList <:+: formatter.textTemplate.toList := by
    rw [← Template.occurs_iff]
    exact Bool.eq_false_iff.mp dropped
  have filled (content : String) :
      (formatter.render content metadata mode).toList =
        Template.fill [⟨metadataPlaceholder.toList, formatter.renderMetadata metadata mode⟩]
          formatter.textTemplate.toList := by
    let keep : Slot → Bool := fun slot => slot.placeholder == metadataPlaceholder.toList
    have others : ∀ slot ∈ textSlots (formatter.renderMetadata metadata mode) content.toList,
        keep slot = false → ¬slot.placeholder <:+: formatter.textTemplate.toList := by
      simp [textSlots, keep, absent]
    rw [toList_render, ← Template.fill_filter keep others]
    rfl
  rw [← String.toList_inj, filled, filled]

end TemplateFormatter

namespace FormatterSettings

theorem build_run (settings : FormatterSettings) (session : Session) :
    settings.build session =
      match settings.resolve with
      | .error error => (.error error, session)
      | .ok formatter =>
        (.ok formatter, session.reporting
          (if formatter.keepsContent then [] else [.contentDropped formatter.textTemplate])) := by
  rw [build, Session.attempt_bind, Session.attempt_settle]
  cases settings.resolve with
  | error error => rfl
  | ok formatter =>
      cases kept : formatter.keepsContent with
      | true => simp [kept, Session.attempt_pure]
      | false => simp [kept, Session.attempt_bind, Session.attempt_report, Session.attempt_pure]

theorem template_eq_ok {field standard text : String} {chosen : Option String}
    (accepted : template field standard chosen = .ok text) : chosen.getD standard = text := by
  cases chosen with
  | none =>
      cases accepted
      rfl
  | some given =>
      rw [template] at accepted
      split at accepted
      · cases accepted
      · cases accepted
        rfl

theorem textTemplate_of_resolve {settings : FormatterSettings} {formatter : TemplateFormatter}
    (resolved : settings.resolve = .ok formatter) :
    settings.textTemplate.getD TemplateFormatter.standard.textTemplate =
      formatter.textTemplate := by
  simp only [resolve, bind, Except.bind] at resolved
  split at resolved
  · cases resolved
  · split at resolved
    · cases resolved
    · next accepted =>
      cases resolved
      exact template_eq_ok accepted

/-- Building warns at most once, and exactly of a text template in which the placeholder of the
content does not occur.  Without the warning the content of a document stands in each of its
renderings; with it documents of the same metadata have the same renderings. -/
theorem build_warning_exact {settings : FormatterSettings} {formatter : TemplateFormatter}
    {session later : Session} (built : settings.build session = (.ok formatter, later)) :
    settings.textTemplate.getD TemplateFormatter.standard.textTemplate =
      formatter.textTemplate ∧
    ∃ warnings : List Event, later = session.reporting warnings ∧
      (warnings = [] ∧
          TemplateFormatter.contentPlaceholder.toList <:+: formatter.textTemplate.toList ∧
          (∀ (document : Document) (mode : MetadataMode) (session : Session),
            document.content.toList <:+:
              (document.formatWith (.template formatter) mode session).1.toList) ∨
        warnings = [.contentDropped formatter.textTemplate] ∧
          ¬TemplateFormatter.contentPlaceholder.toList <:+: formatter.textTemplate.toList ∧
          (∀ (mode : MetadataMode) (left right : Document), left.metadata = right.metadata →
            ∀ leftSession rightSession,
              (left.formatWith (.template formatter) mode leftSession).1 =
                (right.formatWith (.template formatter) mode rightSession).1)) := by
  rw [build_run] at built
  cases resolved : settings.resolve with
  | error error =>
      rw [resolved] at built
      cases built
  | ok found =>
      rw [resolved] at built
      cases built
      refine ⟨textTemplate_of_resolve resolved, _, rfl, ?_⟩
      rw [← Template.occurs_iff]
      simp only [Document.formatWith, Formatter.format_run]
      cases kept : formatter.keepsContent with
      | true =>
          refine .inl ⟨rfl, kept, ?_⟩
          intro document mode session
          exact TemplateFormatter.content_infix_render kept ..
      | false =>
          refine .inr ⟨rfl, Bool.eq_false_iff.mp kept, ?_⟩
          intro mode left right sameMetadata leftSession rightSession
          simp only [Formatter.render, sameMetadata]
          exact TemplateFormatter.render_eq_of_dropped kept ..

/-- The standard settings with another text template. -/
def braced (textTemplate : String) : FormatterSettings :=
  { standard with textTemplate := some textTemplate }

theorem build_warning_exact_braced :
    let session := Session.start fun _ => ""
    let metadata : Metadata := KeyMap.singleton "key" (.string "\x7bcontent\x7d")
    let body := Document.assemble "first" "Body" [] metadata
    let other := Document.assemble "second" "Other" [] metadata
    (∃ formatter later,
      (braced "\x7b\x7bcontent\x7d\x7d").build session = (.ok formatter, later) ∧
        later.events = #[] ∧
        "Body".toList <:+: (body.formatWith (.template formatter) .all session).1.toList) ∧
      ∃ formatter later,
        (braced "\x7bmetadata_string\x7d\x7bcontent").build session = (.ok formatter, later) ∧
          later.events = #[.contentDropped "\x7bmetadata_string\x7d\x7bcontent"] ∧
          (body.formatWith (.template formatter) .all session).1 =
            (other.formatWith (.template formatter) .all session).1 := by
  intro session metadata body other
  constructor
  · have built : (braced "\x7b\x7bcontent\x7d\x7d").build session =
        (.ok { TemplateFormatter.standard with textTemplate := "\x7b\x7bcontent\x7d\x7d" },
          session) := rfl
    obtain ⟨-, warnings, -, ⟨-, -, shown⟩ | ⟨-, absent, -⟩⟩ := build_warning_exact built
    · exact ⟨_, _, built, rfl, shown body .all session⟩
    · exact absurd (by decide) absent
  · have built : (braced "\x7bmetadata_string\x7d\x7bcontent").build session =
        (.ok { TemplateFormatter.standard with
          textTemplate := "\x7bmetadata_string\x7d\x7bcontent" },
          session.reporting [.contentDropped "\x7bmetadata_string\x7d\x7bcontent"]) := rfl
    obtain ⟨-, warnings, -, ⟨-, present, -⟩ | ⟨-, -, same⟩⟩ := build_warning_exact built
    · exact absurd present (by decide)
    · exact ⟨_, _, built, rfl, same .all body other rfl session session⟩

end FormatterSettings

end Corpus
