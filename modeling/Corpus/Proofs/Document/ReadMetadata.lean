import Corpus.Proofs.Document.ReadBack
import Corpus.Proofs.Metadata.Canonical

/-!
# The metadata of a document that is read

Metadata is read from one place: the field of its name or, where a document is given as an array,
the item in its position.  What stands there is taken as a whole, and no other place touches it.
-/

namespace Corpus

namespace Decode

theorem enter_eq_ok {source inner : Source} (entered : enter source = .ok inner) :
    source.enter? = some inner := by
  unfold enter at entered
  split at entered
  · next found =>
    cases entered
    exact found
  · cases entered

theorem any_eq_ok {source : Source} {outline : Outline} {value : Value}
    (read : any source outline = .ok value) : outline.value? source = some value := by
  unfold any at read
  split at read
  · next shown =>
    cases read
    exact shown
  · cases read

theorem fields?_of_entries_any {source : Source} {map result : KeyMap Value}
    {fields : List (Option String × Outline)}
    (read : entries (any source) map fields = .ok result) :
    Outline.fields? source map fields = some result := by
  induction fields generalizing map with
  | nil =>
    cases read
    rfl
  | cons field fields ih =>
    obtain ⟨_ | key, place⟩ := field
    · cases read
    · obtain ⟨value, first, rest⟩ := bind_eq_ok read
      rw [Outline.fields?, any_eq_ok first]
      exact ih rest

theorem value?_of_map_any {source : Source} {outline : Outline} {map : KeyMap Value}
    (read : Decode.map any source outline = .ok map) :
    outline.value? source = some (.object map) := by
  cases outline with
  | object fields closed =>
    obtain ⟨inner, entered, read⟩ := bind_eq_ok read
    obtain ⟨shown, filled, ended⟩ := bind_eq_ok read
    have isClosed : closed = true := by
      by_contra isOpen
      simp only [closing, isOpen] at ended
      cases ended
    have fieldsShown := fields?_of_entries_any filled
    rw [closing_eq_ok ended, isClosed]
    simp only [Outline.value?, enter_eq_ok entered, fieldsShown, Option.map_some]
  | _ => cases read

theorem positional_nil_eq_ok {σ : Type} {shape : Shape σ} {source : Source} {closed : Bool}
    {fields : List (Field σ)} {index : Nat} {record filled : σ} {rest : List Outline}
    (read : positional shape source closed record fields index [] = .ok (filled, rest)) :
    filled = record := by
  induction fields generalizing index with
  | nil =>
    cases read
    rfl
  | cons field fields ih =>
    rw [positional] at read
    split at read
    · cases read
    · split at read
      · exact ih read
      · cases read

end Decode

namespace Document

/-- The place of the metadata in the outline of a document. -/
def metadataPlace : Outline → Option Outline
  | .array items _ => ((shape.fields.map (·.name)).zip items).lookup "metadata"
  | .object fields _ => fields.lookup (some "metadata")
  | _ => none

/-- The metadata that the outline of a document shows: none where their place is missing. -/
def shownMetadata (source : Source) (outline : Outline) : Metadata :=
  Option.getD (do
    let inner ← source.enter?
    let place ← metadataPlace outline
    let value ← place.value? inner
    value.fields?) .empty

/-- The metadata of a record that its place is read into, if there is such a place. -/
def ShowsIn (source : Source) (place : Option Outline) (metadata : Option Metadata) : Prop :=
  match place with
  | some place => ∃ shown, metadata = some shown ∧ place.value? source = some (.object shown)
  | none => metadata = none

/-- Only the field of the metadata reads into them, and it is read at most once. -/
theorem metadata_of_field {field : Decode.Field Partial} (known : field ∈ shape.fields)
    {source : Source} {outline : Outline} {record filled : Partial}
    (read : field.read source outline record = .ok filled) :
    (field.name = "metadata" → field.isRead record = record.metadata.isSome ∧
      ShowsIn source (some outline) filled.metadata) ∧
    (field.name ≠ "metadata" → filled.metadata = record.metadata) := by
  simp only [shape, List.mem_cons, List.not_mem_nil, or_false] at known
  rcases known with rfl | rfl | rfl | rfl | rfl
  all_goals
    obtain ⟨part, decoded, finished⟩ := Decode.bind_eq_ok read
    cases finished
  · exact ⟨fun name => absurd name (by decide), fun _ => rfl⟩
  · exact ⟨fun name => absurd name (by decide), fun _ => rfl⟩
  · exact ⟨fun name => absurd name (by decide), fun _ => rfl⟩
  · exact ⟨fun _ => ⟨rfl, part, rfl, Decode.value?_of_map_any decoded⟩,
      fun other => absurd rfl other⟩
  · exact ⟨fun name => absurd name (by decide), fun _ => rfl⟩

theorem metadata_of_named {source : Source} {fields : List (Option String × Outline)}
    {record filled : Partial} (read : Decode.named shape source record fields = .ok filled) :
    (record.metadata = none → ShowsIn source (fields.lookup (some "metadata")) filled.metadata) ∧
    (∀ metadata, record.metadata = some metadata → filled.metadata = some metadata) := by
  induction fields generalizing record with
  | nil =>
    cases read
    exact ⟨fun blank => blank, fun _ given => given⟩
  | cons field fields ih =>
    obtain ⟨_ | key, place⟩ := field
    · cases read
    · rw [Decode.named] at read
      split at read
      · next unknown =>
        have other : (some "metadata" == some key) = false := by
          by_contra same
          have same : "metadata" = key := by simpa using same
          rw [← same] at unknown
          cases unknown
        split at read
        · rw [List.lookup_cons, other]
          exact ih read
        · cases read
      · next field found =>
        have known := List.mem_of_find?_eq_some found
        have named : field.name = key := by simpa using List.find?_some found
        split at read
        · cases read
        · next unread =>
          obtain ⟨next, first, rest⟩ := Decode.bind_eq_ok read
          have here := metadata_of_field known first
          rw [named] at here
          by_cases same : key = "metadata"
          · obtain ⟨isRead, shown, taken, value⟩ := here.1 same
            have blank : record.metadata = none := by
              simpa [isRead] using unread
            refine ⟨fun _ => ?_, fun metadata given => ?_⟩
            · rw [same, List.lookup_cons_self]
              exact ⟨shown, (ih rest).2 shown taken, value⟩
            · rw [blank] at given
              cases given
          · have other : (some "metadata" == some key) = false := by
              simpa using Ne.symm same
            rw [← here.2 same, List.lookup_cons, other]
            exact ih rest

theorem metadata_of_positional {source : Source} {closed : Bool}
    {fields : List (Decode.Field Partial)} (known : ∀ field ∈ fields, field ∈ shape.fields)
    (distinct : (fields.map (·.name)).Nodup) {index : Nat} {items rest : List Outline}
    {record filled : Partial}
    (read : Decode.positional shape source closed record fields index items =
      .ok (filled, rest)) :
    (record.metadata = none →
      ShowsIn source (((fields.map (·.name)).zip items).lookup "metadata") filled.metadata) ∧
    ("metadata" ∉ fields.map (·.name) → filled.metadata = record.metadata) := by
  induction fields generalizing index items record with
  | nil =>
    cases read
    exact ⟨fun blank => blank, fun _ => rfl⟩
  | cons field fields ih =>
    obtain ⟨fresh, distinct⟩ := List.nodup_cons.mp distinct
    cases items with
    | nil =>
      rw [Decode.positional_nil_eq_ok read]
      exact ⟨fun blank => blank, fun _ => rfl⟩
    | cons item items =>
      obtain ⟨next, first, later⟩ := Decode.bind_eq_ok read
      have here := metadata_of_field (known field List.mem_cons_self) first
      have after := ih (fun other member => known other (List.mem_cons_of_mem _ member)) distinct
        later
      rw [List.map_cons, List.zip_cons_cons]
      by_cases same : field.name = "metadata"
      · obtain ⟨-, shown⟩ := here.1 same
        have last : "metadata" ∉ fields.map (·.name) := same ▸ fresh
        rw [same]
        refine ⟨fun _ => ?_, fun absent => absurd List.mem_cons_self absent⟩
        rw [List.lookup_cons_self, after.2 last]
        exact shown
      · have other : ("metadata" == field.name) = false := by
          simpa using Ne.symm same
        rw [List.lookup_cons, other, ← here.2 same]
        refine ⟨after.1, fun absent => after.2 fun member => ?_⟩
        exact absent (List.mem_cons_of_mem _ member)

theorem metadata_of_record {source : Source} {outline : Outline} {filled : Partial}
    (read : Decode.record shape ⟨none, none, none, none, none⟩ source outline = .ok filled) :
    filled.metadata.getD .empty = shownMetadata source outline := by
  have shows {inner : Source} (entered : Decode.enter source = .ok inner)
      (place : ShowsIn inner (metadataPlace outline) filled.metadata) :
      filled.metadata.getD .empty = shownMetadata source outline := by
    rw [shownMetadata, Decode.enter_eq_ok entered]
    cases found : metadataPlace outline with
    | none =>
      rw [found] at place
      rw [place]
      rfl
    | some item =>
      rw [found] at place
      obtain ⟨shown, taken, value⟩ := place
      rw [taken]
      simp [value, Value.fields?_object]
  cases outline with
  | array items closed =>
    obtain ⟨inner, entered, read⟩ := Decode.bind_eq_ok read
    obtain ⟨⟨record, rest⟩, positional, read⟩ := Decode.bind_eq_ok read
    obtain ⟨-, -, finished⟩ := Decode.bind_eq_ok read
    cases finished
    exact shows entered
      ((metadata_of_positional (fun _ member => member) (by decide) positional).1 rfl)
  | object fields closed =>
    obtain ⟨inner, entered, read⟩ := Decode.bind_eq_ok read
    obtain ⟨record, named, ended⟩ := Decode.bind_eq_ok read
    rw [Decode.closing_eq_ok ended] at shows ⊢
    exact shows entered ((metadata_of_named named).1 rfl)
  | _ => cases read

theorem metadata_draftOf (id : Option String) (content : String) (media : List Media)
    (metadata : Metadata) : (draftOf id content media metadata).metadata = metadata := by
  cases id with
  | none => rfl
  | some id =>
    simp only [draftOf, Draft.setId]
    split <;> rfl

/-- A document that is read has the metadata that its outline shows. -/
theorem metadata_of_decode {source : Source} {outline : Outline} {read : Read}
    (decoded : decode source outline = .ok read) :
    read.draft.metadata = shownMetadata source outline := by
  obtain ⟨filled, record, decoded⟩ := Decode.bind_eq_ok decoded
  obtain ⟨content, -, finished⟩ := Decode.bind_eq_ok decoded
  cases finished
  rw [metadata_draftOf, metadata_of_record record]

theorem metadata_of_ofValue {value : Value} {document : Document} {session later : Session}
    (accepted : ofValue value session = (.ok document, later)) :
    document.metadata = shownMetadata .value (.ofJson value.json) := by
  obtain ⟨read, _, settled, built⟩ := Session.attempt_bind_eq_ok accepted
  obtain ⟨_, -, same⟩ := Read.build_eq_ok built
  have decoded : Decode.fromValue decode value = .ok read := congrArg Prod.fst settled
  rw [same, ← metadata_of_decode decoded]
  rfl

theorem metadata_of_ofText {text : String} {document : Document} {session later : Session}
    (accepted : ofText text session = (.ok document, later)) :
    document.metadata = shownMetadata .start (Outline.ofText text).1 := by
  obtain ⟨read, _, settled, continued⟩ := Session.attempt_bind_eq_ok accepted
  obtain ⟨built, _, succeeded, ended⟩ := Session.attempt_bind_eq_ok continued
  obtain ⟨_, -, same⟩ := Read.build_eq_ok succeeded
  have decoded : decode .start (Outline.ofText text).1 = .ok read := congrArg Prod.fst settled
  rw [Decode.closing_eq_ok (congrArg Prod.fst ended), same, ← metadata_of_decode decoded]
  rfl

end Document

end Corpus
