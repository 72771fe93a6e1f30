import Corpus.Document.Basic
import Corpus.Proofs.KeyMap.Listing
import Corpus.Proofs.Session

/-!
# What a rendering shows

A rendering by templates takes the content and the visible metadata and nothing else: documents
that agree on these are rendered by the same text, whatever else they hold.  Every visible entry is
rendered once, by ascending key, in whatever order the metadata lists its entries.
-/

namespace Corpus

theorem KeySet.contains_iff {set : KeySet} {key : String} :
    set.contains key = true ↔ key ∈ set.keys := by
  rw [KeyMap.contains, Option.isSome_iff_exists, KeyMap.mem_keys_iff]

namespace Formatter

/-- What is reported when a record is formatted. -/
def reports (formatter : Formatter) (record : Record) (mode : MetadataMode) : List Event :=
  match formatter with
  | .template templates =>
    [.formatting record.id mode (templates.select record.metadata mode).length]
  | .custom _ => []

/-- Formatting gives the rendering and touches nothing of the session but its events. -/
theorem format_run (formatter : Formatter) (record : Record) (mode : MetadataMode)
    (session : Session) :
    formatter.format record mode session =
      (formatter.render record mode, session.reporting (formatter.reports record mode)) := by
  cases formatter with
  | template templates =>
      let event : Event :=
        .formatting record.id mode (templates.select record.metadata mode).length
      have formatted : (Formatter.template templates).format record mode session =
          ((Formatter.template templates).render record mode,
            { session with events := session.events.push event }) := rfl
      simp [formatted, event, reports, Session.reporting]
  | custom formatter =>
      rw [reports, Session.reporting_nil]
      rfl

end Formatter

namespace TemplateFormatter

/-- The keys that a mode lets be seen. -/
def Visible (formatter : TemplateFormatter) : MetadataMode → String → Prop
  | .all, _ => True
  | .embed, key => key ∉ formatter.hiddenFromEmbed.keys
  | .inference, key => key ∉ formatter.hiddenFromInference.keys
  | .none, _ => False

theorem shows_iff_visible {formatter : TemplateFormatter} {mode : MetadataMode} {key : String} :
    formatter.shows mode key = true ↔ formatter.Visible mode key := by
  cases mode with
  | all => simp [shows, Visible]
  | embed => simp [shows, Visible, ← KeySet.contains_iff]
  | inference => simp [shows, Visible, ← KeySet.contains_iff]
  | none => simp [shows, Visible]

theorem mem_select {formatter : TemplateFormatter} {metadata : Metadata} {mode : MetadataMode}
    {entry : String × Value} :
    entry ∈ formatter.select metadata mode ↔
      formatter.Visible mode entry.1 ∧ metadata.get? entry.1 = some entry.2 := by
  rw [select, List.mem_filter, shows_iff_visible, KeyMap.get?_eq_some_iff, and_comm]

theorem sorted_select (formatter : TemplateFormatter) (metadata : Metadata) (mode : MetadataMode) :
    (formatter.select metadata mode).Pairwise fun earlier later => earlier.1 < later.1 :=
  metadata.sorted.filter _

theorem select_eq_of_agree {formatter : TemplateFormatter} {mode : MetadataMode}
    {left right : Metadata}
    (agree : ∀ key, formatter.Visible mode key → left.get? key = right.get? key) :
    formatter.select left mode = formatter.select right mode := by
  apply KeyMap.eq_of_same_entries (sorted_select ..) (sorted_select ..)
  intro entry
  rw [mem_select, mem_select]
  constructor
  · rintro ⟨visible, found⟩
    exact ⟨visible, agree _ visible ▸ found⟩
  · rintro ⟨visible, found⟩
    exact ⟨visible, (agree _ visible).symm ▸ found⟩

/-- The order of a listing makes no difference to the entries that are selected from it. -/
theorem selectListed_eq_select {formatter : TemplateFormatter} {metadata : Metadata}
    {listing : List (String × Value)} (permuted : metadata.entries.Perm listing)
    (mode : MetadataMode) :
    formatter.selectListed listing mode = formatter.select metadata mode := by
  let shown : Metadata := metadata.filter fun key _ => formatter.shows mode key
  have visible : shown.entries.Perm
      (listing.filter fun entry => formatter.shows mode entry.1) := permuted.filter _
  exact KeyMap.sortEntries_eq_entries visible

theorem renderListed_eq_render {formatter : TemplateFormatter} {metadata : Metadata}
    {listing : List (String × Value)} (permuted : metadata.entries.Perm listing)
    (content : String) (mode : MetadataMode) :
    formatter.renderListed content listing mode = formatter.render content metadata mode := by
  rw [renderListed, selectListed_eq_select permuted]
  rfl

/-- Documents with one content and the same visible metadata are rendered by the same text,
whatever their hidden metadata is and in whatever order their entries are listed.  The visible
entries stand in the text by strictly ascending key, each of them once. -/
theorem format_eq_of_agree (formatter : TemplateFormatter) (mode : MetadataMode)
    {left right : Document} (contents : left.content = right.content)
    (agree : ∀ key, formatter.Visible mode key →
      left.metadata.get? key = right.metadata.get? key) :
    (∀ leftSession rightSession,
      (left.formatWith (.template formatter) mode leftSession).1 =
        (right.formatWith (.template formatter) mode rightSession).1) ∧
    (∀ leftListing rightListing, left.metadata.entries.Perm leftListing →
      right.metadata.entries.Perm rightListing →
      formatter.renderListed left.content leftListing mode =
        formatter.renderListed right.content rightListing mode) ∧
    (∀ session listing, left.metadata.entries.Perm listing →
      (left.formatWith (.template formatter) mode session).1 =
        formatter.renderListed left.content listing mode) ∧
    ∃ shown : List (String × Value),
      (shown.Pairwise fun earlier later => earlier.1 < later.1) ∧
      (∀ key value, (key, value) ∈ shown ↔
        formatter.Visible mode key ∧ left.metadata.get? key = some value) ∧
      formatter.renderMetadata left.metadata mode =
        formatter.metadataSeparator.toList.intercalate (shown.map formatter.renderEntry) := by
  have texts : formatter.render left.content left.metadata mode =
      formatter.render right.content right.metadata mode := by
    rw [render, render, renderMetadata, renderMetadata, select_eq_of_agree agree, contents]
  refine ⟨?_, ?_, ?_, formatter.select left.metadata mode, sorted_select .., ?_, rfl⟩
  · intro leftSession rightSession
    rw [Document.formatWith, Document.formatWith, Formatter.format_run, Formatter.format_run]
    exact texts
  · intro leftListing rightListing leftPermuted rightPermuted
    rw [renderListed_eq_render leftPermuted, renderListed_eq_render rightPermuted, texts]
  · intro session listing permuted
    rw [Document.formatWith, Formatter.format_run, renderListed_eq_render permuted]
    rfl
  · intro key value
    exact mem_select

/-- The standard templates, with two keys hidden from embedding models. -/
def discreet : TemplateFormatter :=
  { standard with hiddenFromEmbed := KeySet.ofList ["page", "secret"] }

theorem format_eq_of_agree_discreet :
    let left := Document.assemble "first" "Body" []
      (KeyMap.ofList [("secret", .bool true), ("author", .string "ada")])
    let right := Document.assemble "second" "Body" []
      (KeyMap.ofList [("author", .string "ada"), ("page", .string "4")])
    let session := Session.start fun _ => ""
    (left.formatWith (.template discreet) .embed session).1 =
        (right.formatWith (.template discreet) .embed session).1 ∧
      (right.formatWith (.template discreet) .embed session).1 = "author: ada\n\nBody" ∧
      (left.formatWith (.template discreet) .all session).1 ≠
        (right.formatWith (.template discreet) .all session).1 := by
  intro left right session
  have contents : left.content = right.content := rfl
  have agree : ∀ key, discreet.Visible .embed key →
      left.metadata.get? key = right.metadata.get? key := by
    intro key visible
    have notHidden : key ≠ "page" ∧ key ≠ "secret" := by
      have keys : discreet.hiddenFromEmbed.keys = ["page", "secret"] := by decide
      simpa [Visible, keys] using visible
    simp [left, right, Document.assemble, KeyMap.ofList, KeyMap.get?_insert, KeyMap.get?_empty,
      notHidden]
  exact ⟨(format_eq_of_agree discreet .embed contents agree).1 session session, by decide,
    by decide⟩

end TemplateFormatter

end Corpus
