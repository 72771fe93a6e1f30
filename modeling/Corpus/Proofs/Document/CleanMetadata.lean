import Corpus.Proofs.Document.ReadMetadata

/-!
# Clean metadata

A single entry is refused if its key is empty or its value is null.  A map that is given as a whole
is taken as it is, so a document that is accepted has such an entry exactly if the map had it and
no single entry has replaced it since.
-/

namespace Corpus

/-- Metadata without an empty key and without a null. -/
def Metadata.Clean (metadata : Metadata) : Prop :=
  ∀ key value, metadata.get? key = some value → key ≠ "" ∧ value ≠ .null

namespace Draft

theorem accepted_of_built {steps : List Step} {document : Document} {session later : Session}
    (built : (ofSteps steps).build session = (.ok document, later)) :
    (∀ step ∈ steps, step.Accepted) ∧ Determined steps document := by
  have accepted : ∀ step ∈ steps, step.Accepted := by
    intro step member
    by_contra refused
    obtain ⟨error, first⟩ := exists_firstRefusal ⟨step, member, refused⟩
    rw [build_run, error_of_firstRefusal first] at built
    cases built
  obtain ⟨id, -, same⟩ := build_eq_ok built
  exact ⟨accepted, same ▸ determined_assembled accepted id⟩

theorem Step.not_accepted_entry_iff {key : String} {value : Value} :
    ¬(Step.entry key value).Accepted ↔ key = "" ∨ value = .null := by
  constructor
  · intro refused
    obtain ⟨error, refused⟩ := not_forall_not.mp refused
    cases refused with
    | emptyKey _ empty => exact .inl empty
    | nullValue _ => exact .inr rfl
  · intro unclean accepted
    by_cases empty : key = ""
    · exact accepted _ (.emptyKey value empty)
    · rcases unclean with named | rfl
      · exact empty named
      · exact accepted _ (.nullValue empty)

end Draft

/-- How a document is accepted: with metadata that are given as a whole, and with the steps that
were taken since. -/
inductive Document.Accepted : Metadata → List Draft.Step → Document → Prop where
  | withScheme {scheme : IdScheme} {content : String} {metadata : Metadata} {document : Document}
      {session later : Session} :
      Document.withScheme scheme content metadata session = (.ok document, later) →
      Accepted metadata [] document
  | withId {id content : String} {metadata : Metadata} {document : Document} :
      Document.withId id content metadata = .ok document → Accepted metadata [] document
  | ofParts {id content : String} {media : List Media} {metadata : Metadata}
      {document : Document} :
      Document.ofParts id content media metadata = .ok document → Accepted metadata [] document
  | built {steps : List Draft.Step} {document : Document} {session later : Session} :
      (Draft.ofSteps steps).build session = (.ok document, later) →
      Accepted (Draft.lastSet Draft.Step.metadata? .empty steps)
        (Draft.sinceSet Draft.Step.metadata? steps) document
  | ofValue {value : Value} {document : Document} {session later : Session} :
      Document.ofValue value session = (.ok document, later) →
      Accepted (shownMetadata .value (.ofJson value.json)) [] document
  | ofText {text : String} {document : Document} {session later : Session} :
      Document.ofText text session = (.ok document, later) →
      Accepted (shownMetadata .start (Outline.ofText text).1) [] document

namespace Document.Accepted

variable {given : Metadata} {since : List Draft.Step} {document : Document}

theorem get?_metadata (accepted : document.Accepted given since) (key : String) :
    document.metadata.get? key =
      (since.filterMap (Draft.Step.entry? key)).getLast?.or (given.get? key) := by
  cases accepted with
  | withScheme made =>
    obtain ⟨id, _, -, settled⟩ := Session.attempt_bind_eq_ok made
    rw [(ofParts_eq_ok (congrArg Prod.fst settled)).2]
    rfl
  | withId made =>
    rw [(ofParts_eq_ok made).2]
    rfl
  | ofParts made =>
    rw [(ofParts_eq_ok made).2]
    rfl
  | built built => exact (Draft.accepted_of_built built).2.metadata key
  | ofValue read =>
    rw [metadata_of_ofValue read]
    rfl
  | ofText read =>
    rw [metadata_of_ofText read]
    rfl

theorem accepted_since (accepted : document.Accepted given since) :
    ∀ step ∈ since, step.Accepted := by
  cases accepted with
  | built built =>
    intro step member
    exact (Draft.accepted_of_built built).1 step ((List.rtakeWhile_suffix ..).subset member)
  | _ => exact List.forall_mem_nil _

theorem clean_since (accepted : document.Accepted given since) {key : String} {value : Value}
    (member : .entry key value ∈ since) : key ≠ "" ∧ value ≠ .null := by
  rw [← not_or]
  intro unclean
  exact Draft.Step.not_accepted_entry_iff.mpr unclean (accepted.accepted_since _ member)

theorem clean_iff (accepted : document.Accepted given since) :
    document.metadata.Clean ↔
      ∀ key value, given.get? key = some value → key = "" ∨ value = .null →
        ∃ entry, .entry key entry ∈ since := by
  constructor
  · intro clean key value found unclean
    by_contra kept
    have untouched : since.filterMap (Draft.Step.entry? key) = [] := by
      rw [List.filterMap_eq_nil_iff]
      intro step member
      cases step with
      | entry other entry =>
        refine if_neg fun same => kept ⟨entry, ?_⟩
        rwa [same]
      | _ => rfl
    have stands : document.metadata.get? key = some value := by
      rw [accepted.get?_metadata, untouched]
      exact found
    exact not_or.mpr (clean key value stands) unclean
  · intro replaced key value found
    rw [accepted.get?_metadata] at found
    cases last : (since.filterMap (Draft.Step.entry? key)).getLast? with
    | none =>
      rw [last, Option.none_or] at found
      rw [← not_or]
      intro unclean
      obtain ⟨entry, member⟩ := replaced key value found unclean
      have set : entry ∈ since.filterMap (Draft.Step.entry? key) :=
        List.mem_filterMap.mpr ⟨_, member, if_pos rfl⟩
      rw [List.getLast?_eq_none_iff.mp last] at set
      cases set
    | some entry =>
      rw [last, Option.some_or] at found
      obtain ⟨step, member, sets⟩ := List.mem_filterMap.mp (List.mem_of_getLast? last)
      cases found
      cases step with
      | entry other set =>
        rw [Draft.Step.entry?] at sets
        split at sets
        · next same =>
          cases sets
          rw [same]
          exact accepted.clean_since member
        · cases sets
      | _ => cases sets

end Document.Accepted

/-- An entry that is set by itself with an empty key or a null is refused.  What is accepted has
clean metadata exactly if every such entry of the map that was given as a whole has been replaced
since. -/
theorem Document.clean_metadata_iff (steps since : List Draft.Step) (session : Session)
    (given : Metadata) (document : Document) :
    ((∃ key value, .entry key value ∈ steps ∧ (key = "" ∨ value = .null)) →
      ∃ error, Draft.FirstRefusal steps error ∧
        (Draft.ofSteps steps).build session = (.error error, session)) ∧
    (document.Accepted given since →
      (∀ key value, .entry key value ∈ since → key ≠ "" ∧ value ≠ .null) ∧
      (document.metadata.Clean ↔
        ∀ key value, given.get? key = some value → key = "" ∨ value = .null →
          ∃ entry, .entry key entry ∈ since)) := by
  constructor
  · rintro ⟨key, value, member, unclean⟩
    obtain ⟨error, first⟩ := Draft.exists_firstRefusal
      ⟨_, member, Draft.Step.not_accepted_entry_iff.mpr unclean⟩
    refine ⟨error, first, ?_⟩
    rw [Draft.build_run, Draft.error_of_firstRefusal first]
  · intro accepted
    exact ⟨fun key value member => accepted.clean_since member, accepted.clean_iff⟩

/-- A null is refused by itself; one that was given in a map can be replaced. -/
theorem Document.clean_metadata_iff_replaced :
    let session := Session.start fun _ => "r"
    let refused : List Draft.Step := [.entry "key" .null, .entry "" (.bool true)]
    let steps : List Draft.Step :=
      [.id "d", .metadata (.singleton "key" .null), .entry "key" (.bool true)]
    (Draft.ofSteps refused).build session = (.error (.nullMetadataValue "key"), session) ∧
      ∃ document, (Draft.ofSteps steps).build session = (.ok document, session) ∧
        document.metadata.Clean := by
  intro session refused steps
  constructor
  · obtain ⟨error, first, built⟩ := (clean_metadata_iff refused [] session .empty
      (assemble "d" "" [] .empty)).1 ⟨"", .bool true, by simp [refused], .inl rfl⟩
    have reported : some (.nullMetadataValue "key") = some error :=
      Draft.error_of_firstRefusal first
    cases reported
    exact built
  · have built : (Draft.ofSteps steps).build session =
        (.ok (assemble "d" "" [] ((KeyMap.singleton "key" .null).insert "key" (.bool true))),
          session) := by
      rw [Draft.build_run]
      rfl
    refine ⟨_, built, ((clean_metadata_iff steps _ session _ _).2 (.built built)).2.mpr ?_⟩
    intro key value found _
    have inMap : (key, value) ∈ (KeyMap.singleton "key" Value.null).entries :=
      KeyMap.get?_eq_some_iff.mp found
    cases List.mem_singleton.mp inMap
    exact ⟨.bool true, List.mem_singleton_self _⟩

/-- A map that is given as a whole is not looked into. -/
theorem Document.unclean_accepted :
    let metadata : Metadata := .ofList [("", .bool true), ("key", .null)]
    let document := assemble "d" "x" [] metadata
    let session := Session.start fun _ => ""
    ¬document.metadata.Clean ∧ withId "d" "x" metadata = .ok document ∧
      (Draft.ofSteps [.id "d", .content "x", .metadata metadata]).build session =
        (.ok document, session) ∧
      document.value.json = .object [("content", .string "x"), ("id", .string "d"),
        ("media", .array []), ("metadata", .object [("", .bool true), ("key", .null)])] ∧
      ofValue document.value session = (.ok document, session) := by
  intro metadata document session
  have unclean : ¬document.metadata.Clean := fun clean => (clean "" (.bool true) rfl).1 rfl
  have built : (Draft.ofSteps [.id "d", .content "x", .metadata metadata]).build session =
      (.ok document, session) := by
    rw [Draft.build_run]
    rfl
  have written : document.value.json = .object [("content", .string "x"), ("id", .string "d"),
      ("media", .array []), ("metadata", .object [("", .bool true), ("key", .null)])] := by
    rw [json_value]
    rfl
  have named : Text.isBlank document.id = false := by decide
  exact ⟨unclean, rfl, built, written, ofValue_value named (List.forall_mem_nil _) session⟩

end Corpus
