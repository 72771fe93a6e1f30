import Corpus.Proofs.Formatter.Visibility
import Corpus.Transformer

/-!
# Chains of transformers

Transformers that are applied one after the other change the formatters of documents and nothing
else.  Where all formatters go by templates, what any of them hides stays hidden, and the templates
are those of the last transformer that brings its own; transformers that bring none can therefore
be applied in any order.
-/

namespace Corpus

namespace TemplateFormatter

/-- The three templates of a formatter. -/
def templates (formatter : TemplateFormatter) : String × String × String :=
  (formatter.metadataTemplate, formatter.metadataSeparator, formatter.textTemplate)

/-- A formatter joins two others: it hides what one of them hides, and has the templates of the
second one if these are taken and those of the first one otherwise. -/
structure Joins (takeTemplates : Bool) (current incoming joined : TemplateFormatter) : Prop where
  hiddenFromInference : ∀ key, key ∈ joined.hiddenFromInference.keys ↔
    key ∈ current.hiddenFromInference.keys ∨ key ∈ incoming.hiddenFromInference.keys
  hiddenFromEmbed : ∀ key, key ∈ joined.hiddenFromEmbed.keys ↔
    key ∈ current.hiddenFromEmbed.keys ∨ key ∈ incoming.hiddenFromEmbed.keys
  templates : joined.templates = if takeTemplates then incoming.templates else current.templates

theorem ext_visible {left right : TemplateFormatter} (templates : left.templates = right.templates)
    (visible : ∀ mode key, left.Visible mode key ↔ right.Visible mode key) : left = right := by
  have inference : left.hiddenFromInference = right.hiddenFromInference :=
    KeySet.ext_keys fun key => Decidable.not_iff_not.mp (visible .inference key)
  have embed : left.hiddenFromEmbed = right.hiddenFromEmbed :=
    KeySet.ext_keys fun key => Decidable.not_iff_not.mp (visible .embed key)
  cases left
  cases right
  simp only [TemplateFormatter.templates, Prod.mk.injEq] at templates inference embed
  simp only [templates, inference, embed]

namespace Joins

variable {takeTemplates : Bool} {current incoming joined : TemplateFormatter}

theorem visible (joins : Joins takeTemplates current incoming joined) (mode : MetadataMode)
    (key : String) :
    joined.Visible mode key ↔ current.Visible mode key ∧ incoming.Visible mode key := by
  cases mode with
  | all => simp [Visible]
  | embed => simp only [Visible, joins.hiddenFromEmbed, not_or]
  | inference => simp only [Visible, joins.hiddenFromInference, not_or]
  | none => simp [Visible]

theorem unique {other : TemplateFormatter} (joins : Joins takeTemplates current incoming joined)
    (others : Joins takeTemplates current incoming other) : joined = other := by
  apply ext_visible (joins.templates.trans others.templates.symm)
  intro mode key
  rw [joins.visible, others.visible]

end Joins

end TemplateFormatter

namespace Transformer

open TemplateFormatter (Joins)

/-- How a transformer changes the formatter of a document.  Where one of both is a custom one, the
new one takes the place of the old one; otherwise the old one is joined with it. -/
inductive Attaches (transformer : Transformer) : Formatter → Formatter → Prop where
  | replaced {current : Formatter} :
      current.template? = none ∨ transformer.formatter.template? = none →
      Attaches transformer current transformer.formatter
  | joined {current incoming joined : TemplateFormatter} :
      transformer.formatter = .template incoming →
      Joins transformer.takeTemplates current incoming joined →
      Attaches transformer (.template current) (.template joined)

/-- The formatters that some transformers lead to, one after the other. -/
inductive Chain : List Transformer → Formatter → Formatter → Prop where
  | nil {formatter : Formatter} : Chain [] formatter formatter
  | cons {transformer : Transformer} {transformers : List Transformer}
      {first next last : Formatter} :
      transformer.Attaches first next → Chain transformers next last →
      Chain (transformer :: transformers) first last

/-- The formatter of a document after some transformers have been applied. -/
def combineAll (transformers : List Transformer) (formatter : Formatter) : Formatter :=
  transformers.foldl (fun formatter transformer => transformer.combine formatter) formatter

/-- The formatters whose templates some transformers bring along. -/
def brought (transformers : List Transformer) : List TemplateFormatter :=
  (transformers.filter (·.takeTemplates)).filterMap (·.formatter.template?)

theorem exists_combine_eq (incoming current : TemplateFormatter) (takeTemplates : Bool) :
    ∃ joined : TemplateFormatter,
      combine ⟨.template incoming, takeTemplates⟩ (.template current) = .template joined ∧
      Joins takeTemplates current incoming joined := by
  cases takeTemplates with
  | true =>
      refine ⟨incoming.mergeExclusions current, rfl, ?_, ?_, rfl⟩
      · exact fun key => KeySet.mem_keys_union.trans or_comm
      · exact fun key => KeySet.mem_keys_union.trans or_comm
  | false =>
      refine ⟨current.mergeExclusions incoming, rfl, ?_, ?_, rfl⟩
      · exact fun key => KeySet.mem_keys_union
      · exact fun key => KeySet.mem_keys_union

/-- A transformer attaches to a document the formatter that it combines with the old one, and no
other. -/
theorem attaches_iff {transformer : Transformer} {current next : Formatter} :
    transformer.Attaches current next ↔ next = transformer.combine current := by
  obtain ⟨formatter, takeTemplates⟩ := transformer
  constructor
  · intro attaches
    cases attaches with
    | replaced custom =>
        cases current with
        | custom current => rfl
        | template current =>
            cases formatter with
            | custom incoming => rfl
            | template incoming => exact custom.elim nofun nofun
    | @joined current incoming joined incomingIs joins =>
        subst incomingIs
        obtain ⟨other, combined, others⟩ := exists_combine_eq incoming current takeTemplates
        rw [combined, joins.unique others]
  · rintro rfl
    cases current with
    | custom current => exact .replaced (.inl rfl)
    | template current =>
        cases formatter with
        | custom incoming => exact .replaced (.inr rfl)
        | template incoming =>
            obtain ⟨joined, combined, joins⟩ := exists_combine_eq incoming current takeTemplates
            rw [combined]
            exact .joined rfl joins

theorem chain_iff {transformers : List Transformer} {first last : Formatter} :
    Chain transformers first last ↔ last = combineAll transformers first := by
  induction transformers generalizing first with
  | nil =>
      constructor
      · rintro ⟨⟩
        rfl
      · rintro rfl
        exact .nil
  | cons transformer transformers induction =>
      constructor
      · intro chain
        cases chain with
        | cons attaches others =>
            rw [combineAll, List.foldl_cons, ← combineAll, ← attaches_iff.mp attaches]
            exact induction.mp others
      · intro lastIs
        exact .cons (attaches_iff.mpr rfl) (induction.mpr lastIs)

theorem transformAll_eq_map (transformers : List Transformer) (documents : List Document) :
    transformAll transformers documents =
      documents.map fun document =>
        { document with formatter := combineAll transformers document.formatter } := by
  induction transformers generalizing documents with
  | nil => exact (List.map_id documents).symm
  | cons transformer transformers induction =>
      rw [transformAll, List.foldl_cons, ← transformAll, induction, transform, List.map_map]
      rfl

theorem templates_getLastD {first second : TemplateFormatter}
    (same : first.templates = second.templates) (formatters : List TemplateFormatter) :
    (formatters.getLastD first).templates = (formatters.getLastD second).templates := by
  cases formatters with
  | nil => exact same
  | cons formatter formatters => simp only [List.getLastD_cons]

/-- Where all formatters go by templates, a key is seen at the end if each of them shows it, and
the templates are the ones that were brought last. -/
theorem exists_combineAll_eq {transformers : List Transformer}
    (byTemplates : ∀ transformer ∈ transformers, ∃ incoming,
      transformer.formatter = .template incoming) (original : TemplateFormatter) :
    ∃ final : TemplateFormatter,
      combineAll transformers (.template original) = .template final ∧
      final.templates = ((brought transformers).getLastD original).templates ∧
      ∀ mode key, final.Visible mode key ↔ original.Visible mode key ∧
        ∀ transformer ∈ transformers, ∀ incoming,
          transformer.formatter = .template incoming → incoming.Visible mode key := by
  induction transformers generalizing original with
  | nil => exact ⟨original, rfl, rfl, by simp⟩
  | cons transformer transformers induction =>
      obtain ⟨incoming, incomingIs⟩ := byTemplates transformer (List.mem_cons_self ..)
      obtain ⟨formatter, takeTemplates⟩ := transformer
      subst incomingIs
      obtain ⟨next, nextIs, joins⟩ := exists_combine_eq incoming original takeTemplates
      obtain ⟨final, finalIs, templates, visible⟩ := induction
        (fun other member => byTemplates other (List.mem_cons_of_mem _ member)) next
      refine ⟨final, ?_, ?_, ?_⟩
      · rw [combineAll, List.foldl_cons, nextIs, ← combineAll, finalIs]
      · rw [templates]
        cases takeTemplates with
        | true =>
            have taken : brought (⟨.template incoming, true⟩ :: transformers) =
                incoming :: brought transformers := rfl
            rw [taken, List.getLastD_cons]
            exact templates_getLastD joins.templates _
        | false => exact templates_getLastD joins.templates _
      · intro mode key
        simp only [visible, joins.visible, List.forall_mem_cons, Formatter.template.injEq,
          forall_eq', and_assoc]

/-- Transformers can change places as long as those that bring their templates keep their order. -/
theorem combineAll_eq_of_perm {transformers reordered : List Transformer}
    (byTemplates : ∀ transformer ∈ transformers, ∃ incoming,
      transformer.formatter = .template incoming)
    (permuted : reordered.Perm transformers)
    (sameOrder : reordered.filter (·.takeTemplates) = transformers.filter (·.takeTemplates))
    (original : TemplateFormatter) :
    combineAll reordered (.template original) = combineAll transformers (.template original) := by
  obtain ⟨final, finalIs, templates, visible⟩ := exists_combineAll_eq byTemplates original
  obtain ⟨other, otherIs, otherTemplates, otherVisible⟩ := exists_combineAll_eq
    (fun transformer member => byTemplates transformer (permuted.mem_iff.mp member)) original
  have broughtSame : brought reordered = brought transformers := by
    rw [brought, brought, sameOrder]
  have same : other = final := by
    apply TemplateFormatter.ext_visible
    · rw [otherTemplates, templates, broughtSame]
    · intro mode key
      simp only [otherVisible, visible, permuted.mem_iff]
  rw [otherIs, finalIs, same]

/-- Transformers leave the documents in their places and change nothing but their formatters, each
of which becomes the one that the transformers lead to one after the other.  Where all formatters
go by templates, exactly the metadata is shown at the end that the formatter of the document and
every transformer show, and transformers that leave the templates alone can be applied in any
order. -/
theorem transformAll_outcome (transformers : List Transformer) (documents : List Document) :
    (transformAll transformers documents).length = documents.length ∧
    (∀ (place : Nat) (document : Document), documents[place]? = some document →
      ∃ formatter : Formatter,
        (transformAll transformers documents)[place]? = some { document with formatter } ∧
        ∀ last, Chain transformers document.formatter last ↔ last = formatter) ∧
    ((∀ transformer ∈ transformers, ∃ incoming, transformer.formatter = .template incoming) →
      (∀ (place : Nat) (document : Document) (original : TemplateFormatter),
        documents[place]? = some document → document.formatter = .template original →
        ∃ final : TemplateFormatter,
          (transformAll transformers documents)[place]? =
            some { document with formatter := .template final } ∧
          ∀ (mode : MetadataMode) (metadata : Metadata) (key : String) (value : Value),
            (key, value) ∈ final.select metadata mode ↔
              metadata.get? key = some value ∧ original.Visible mode key ∧
                ∀ transformer ∈ transformers, ∀ incoming,
                  transformer.formatter = .template incoming → incoming.Visible mode key) ∧
      ((∀ document ∈ documents, ∃ original, document.formatter = .template original) →
        ∀ reordered : List Transformer, reordered.Perm transformers →
          reordered.filter (·.takeTemplates) = transformers.filter (·.takeTemplates) →
          transformAll reordered documents = transformAll transformers documents)) := by
  have placed (place : Nat) (document : Document) (found : documents[place]? = some document) :
      (transformAll transformers documents)[place]? =
        some { document with formatter := combineAll transformers document.formatter } := by
    rw [transformAll_eq_map, List.getElem?_map, found]
    rfl
  refine ⟨?_, ?_, fun byTemplates => ⟨?_, ?_⟩⟩
  · rw [transformAll_eq_map, List.length_map]
  · intro place document found
    exact ⟨_, placed place document found, fun _ => chain_iff⟩
  · intro place document original found originalIs
    obtain ⟨final, finalIs, -, visible⟩ := exists_combineAll_eq byTemplates original
    refine ⟨final, ?_, ?_⟩
    · rw [placed place document found, originalIs, finalIs]
    · intro mode metadata key value
      rw [TemplateFormatter.mem_select, visible, and_comm]
  · intro allTemplates reordered permuted sameOrder
    rw [transformAll_eq_map, transformAll_eq_map]
    apply List.map_congr_left
    intro document member
    obtain ⟨original, originalIs⟩ := allTemplates document member
    rw [originalIs, combineAll_eq_of_perm byTemplates permuted sameOrder]

/-- A transformer that hides some keys from embedding models. -/
def concealing (keys : List String) (takeTemplates : Bool) : Transformer :=
  ⟨.template { TemplateFormatter.standard with hiddenFromEmbed := KeySet.ofList keys },
    takeTemplates⟩

theorem transformAll_outcome_concealing :
    let transformers := [concealing ["b"] false, concealing ["c"] true, concealing ["d"] false]
    let reordered := [concealing ["d"] false, concealing ["b"] false, concealing ["c"] true]
    let document := Document.assemble "id" "text" []
      (KeyMap.ofList [("a", .bool true), ("d", .bool false)])
    transformAll reordered [document] = transformAll transformers [document] ∧
      ∃ final : TemplateFormatter,
        (transformAll transformers [document])[0]? =
          some { document with formatter := .template final } ∧
        ("a", .bool true) ∈ final.select document.metadata .embed ∧
        ("d", .bool false) ∉ final.select document.metadata .embed := by
  intro transformers reordered document
  have byTemplates : ∀ transformer ∈ transformers, ∃ incoming,
      transformer.formatter = .template incoming := by
    simp [transformers, concealing]
  have permuted : reordered.Perm transformers :=
    (List.perm_append_comm : ([concealing ["d"] false] ++
      [concealing ["b"] false, concealing ["c"] true]).Perm _)
  obtain ⟨shown, orders⟩ := (transformAll_outcome transformers [document]).2.2 byTemplates
  obtain ⟨final, finalAt, selected⟩ := shown 0 document .standard rfl rfl
  refine ⟨orders (by simp [document, Document.assemble, Formatter.standard]) reordered permuted rfl,
    final, finalAt, ?_, ?_⟩
  · refine (selected ..).mpr ⟨rfl, TemplateFormatter.shows_iff_visible.mp rfl, ?_⟩
    simp only [transformers, concealing, List.forall_mem_cons, Formatter.template.injEq,
      forall_eq', ← TemplateFormatter.shows_iff_visible]
    exact ⟨by decide, by decide, by decide, List.forall_mem_nil _⟩
  · intro member
    obtain ⟨-, -, visible⟩ := (selected ..).mp member
    exact visible (concealing ["d"] false) (by simp [transformers]) _ rfl (by decide)

end Transformer

end Corpus
