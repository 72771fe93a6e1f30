import Corpus.Proofs.Filter.Steady
import Corpus.Proofs.Filter.Written
import Corpus.Proofs.Json.Depth

/-!
# Reading filters back

A filter that is written and read again is the same filter, except that a bound which is the value
null is read as a missing one.  The value null as a bound is never met and a missing bound always
is, so the filter that is read back can accept more than the one that was written.
-/

namespace Corpus

namespace Filter

def boundAsRead (bound : Option Value) : Option Value :=
  bound.filter fun value => !value.isNull

mutual

/-- What is read of a written filter. -/
def asRead : Filter → Filter
  | .eq key value => .eq key value
  | .oneOf key values => .oneOf key values
  | .range key min max => .range key (boundAsRead min) (boundAsRead max)
  | .all filters => .all (asReadAll filters)
  | .any filters => .any (asReadAll filters)

def asReadAll : List Filter → List Filter
  | [] => []
  | filter :: filters => filter.asRead :: asReadAll filters

end

theorem nullable_boundJson (source : Source) (bound : Option Value) :
    Decode.nullable (Decode.any source) (.ofJson (boundJson bound)) =
      Decode.within source (boundJson bound).depth (boundAsRead bound) := by
  cases bound with
  | none => exact (Decode.within_zero source none).symm
  | some value =>
      have shown := Decode.any_ofJson source value
      obtain ⟨json, sorted⟩ := value
      cases json with
      | null => exact (Decode.within_zero source none).symm
      | bool value | number value | string value | array value | object value =>
          exact (congrArg (Except.map some) shown).trans (Decode.within_map source _ _ some)

theorem place_boundJson (source : Source) (bound : Option Value)
    (place : Option Value → PartialRange) :
    (Decode.nullable (Decode.any source) (.ofJson (boundJson bound)) >>= fun read =>
      pure (place read)) =
        Decode.within source (boundJson bound).depth (place (boundAsRead bound)) := by
  rw [nullable_boundJson]
  exact Decode.within_bind_ok _ rfl

section

variable {α : Type} {decode : Source → Outline → Decode.Decoded α} {operand : Json} {result : α}

theorem positional_pair (name key : String) {source : Source}
    (read : decode source (.ofJson operand) = Decode.within source operand.depth result) :
    Decode.positional (pairShape name decode) source true ⟨none, none⟩
      (pairShape name decode).fields 0 (Outline.ofItems [.string key, operand]) =
        Decode.within source operand.depth (⟨some key, some result⟩, []) := by
  have items : Outline.ofItems [.string key, operand] = [.string key, .ofJson operand] := rfl
  rw [items, positional_pair_eq, read, bind_assoc]
  exact Decode.within_bind_ok _ rfl

theorem decodePair_ofJson (name key : String) (source : Source)
    (read : ∀ inner, decode inner (.ofJson operand) =
      Decode.within inner operand.depth result) :
    decodePair name decode source (.ofJson (.array [.string key, operand])) =
      Decode.within source (Json.array [.string key, operand]).depth (key, result) := by
  have depth : (Json.array [.string key, operand]).depth = operand.depth + 1 := by
    simp [Json.depth, Json.depthItems]
  have items := Decode.recordOfItems_eq_within source fun inner =>
    positional_pair name key (read inner)
  have pair : Decode.tuple (pairShape name decode) ⟨none, none⟩ source
      (.ofJson (.array [.string key, operand])) =
        Decode.within source (operand.depth + 1) ⟨some key, some result⟩ := by
    cases source with
    | value => exact items
    | text levels => exact items
  rw [depth, decodePair, pair]
  exact Decode.within_bind_ok _ rfl

end

section

variable {source : Source} {record result : PartialRange} {depth : Nat}
  {rest : List (Option String × Outline)}

theorem named_key {key : String} (absent : record.key = none)
    (continued : Decode.named rangeShape source { record with key := some key } rest =
      Decode.within source depth result) :
    Decode.named rangeShape source record ((some "key", .ofJson (.string key)) :: rest) =
      Decode.within source (max (Json.string key).depth depth) result := by
  apply Decode.named_cons rangeShape.fields[0] rfl
  · simp [rangeShape, absent]
  · exact (Decode.within_zero ..).symm
  · exact continued

theorem named_min {bound : Option Value} (absent : record.min = none)
    (continued : Decode.named rangeShape source { record with min := some (boundAsRead bound) }
      rest = Decode.within source depth result) :
    Decode.named rangeShape source record ((some "min", .ofJson (boundJson bound)) :: rest) =
      Decode.within source (max (boundJson bound).depth depth) result := by
  apply Decode.named_cons rangeShape.fields[1] rfl
  · simp [rangeShape, absent]
  · exact place_boundJson source bound fun read => { record with min := some read }
  · exact continued

theorem named_max {bound : Option Value} (absent : record.max = none)
    (continued : Decode.named rangeShape source { record with max := some (boundAsRead bound) }
      rest = Decode.within source depth result) :
    Decode.named rangeShape source record ((some "max", .ofJson (boundJson bound)) :: rest) =
      Decode.within source (max (boundJson bound).depth depth) result := by
  apply Decode.named_cons rangeShape.fields[2] rfl
  · simp [rangeShape, absent]
  · exact place_boundJson source bound fun read => { record with max := some read }
  · exact continued

end

theorem decodeRange_ofJson {fields : List (String × Json)} {key : String}
    {min max : Option Value} (source : Source)
    (read : ∀ inner, Decode.named rangeShape inner ⟨none, none, none⟩ (Outline.ofFields fields) =
      Decode.within inner (Json.depthFields fields) ⟨some key, some min, some max⟩) :
    decodeRange source (.ofJson (.object fields)) =
      Decode.within source (Json.object fields).depth (.range key min max) := by
  have range : Decode.parts rangeShape ⟨none, none, none⟩ source (.ofJson (.object fields)) =
      Decode.within source (Json.object fields).depth ⟨some key, some min, some max⟩ := by
    have object := Decode.recordOfFields_eq_within source read
    cases source with
    | value => exact object
    | text levels => exact object
  rw [decodeRange, range]
  exact Decode.within_bind_ok _ rfl

theorem decode_tagged {name : String} {content : Json} {result : Filter}
    (known : names.contains name = true) (source : Source)
    (read : ∀ inner, decodeContent inner name (.ofJson content) =
      Decode.within inner content.depth result) :
    decode source (.ofJson (.object [(name, content)])) =
      Decode.within source (Json.object [(name, content)]).depth result := by
  have depth : (Json.object [(name, content)]).depth = content.depth + 1 := by
    simp [Json.depth, Json.depthFields]
  have single : Decode.singleKey source [] = .ok () := by
    cases source <;> rfl
  rw [depth]
  simp only [Outline.ofJson, Outline.ofFields, decode, single, Decode.variant, known, if_true]
  apply Decode.enter_bind
  intro inner
  change decodeContent inner name (.ofJson content) >>= Decode.closing true = _
  rw [read]
  exact Decode.within_bind_ok _ rfl

theorem decodeContent_group {name : String} (group : name = "All" ∨ name = "Any")
    {items : List Json} {filters : List Filter} (source : Source)
    (read : ∀ inner, decodeItems inner (Outline.ofItems items) =
      Decode.within inner (Json.depthItems items) filters) :
    decodeContent source name (.ofJson (.array items)) =
      Decode.within source (Json.array items).depth
        (if name = "All" then .all filters else .any filters) := by
  simp only [Outline.ofJson, decodeContent, Bool.or_eq_true, decide_eq_true_eq, group, if_true]
  apply Decode.enter_bind
  intro inner
  rw [read]
  exact Decode.within_bind_ok _ rfl

mutual

theorem decode_of_written {filter : Filter} {json : Json} (written : Written filter json)
    (source : Source) :
    decode source (.ofJson json) = Decode.within source json.depth filter.asRead := by
  cases written with
  | eq key value =>
      apply decode_tagged rfl
      intro inner
      rw [decodeContent_leaf (by decide)]
      have pair := decodePair_ofJson "Eq" key inner fun inner => Decode.any_ofJson inner value
      exact (congrArg (Except.map _) pair).trans (Decode.within_map ..)
  | oneOf key values =>
      apply decode_tagged rfl
      intro inner
      rw [decodeContent_leaf (by decide)]
      have pair := decodePair_ofJson "In" key inner fun inner =>
        Decode.sequence_any_ofJson inner values
      exact (congrArg (Except.map _) pair).trans (Decode.within_map ..)
  | range key min max =>
      apply decode_tagged rfl
      intro inner
      rw [decodeContent_leaf (by decide)]
      apply decodeRange_ofJson
      intro inner
      apply named_key rfl
      apply named_min rfl
      apply named_max rfl
      exact (Decode.within_zero ..).symm
  | sortedRange key min max =>
      apply decode_tagged rfl
      intro inner
      rw [decodeContent_leaf (by decide)]
      apply decodeRange_ofJson
      intro inner
      apply named_key rfl
      apply named_max rfl
      apply named_min rfl
      exact (Decode.within_zero ..).symm
  | all written =>
      apply decode_tagged rfl
      intro inner
      exact decodeContent_group (.inl rfl) inner (decodeItems_of_written written)
  | any written =>
      apply decode_tagged rfl
      intro inner
      exact decodeContent_group (.inr rfl) inner (decodeItems_of_written written)

theorem decodeItems_of_written {filters : List Filter} {items : List Json}
    (written : WrittenItems filters items) (source : Source) :
    decodeItems source (Outline.ofItems items) =
      Decode.within source (Json.depthItems items) (asReadAll filters) := by
  cases written with
  | nil => exact (Decode.within_zero source []).symm
  | cons head tail =>
      rw [Outline.ofItems, decodeItems, decode_of_written head, Json.depthItems]
      apply Decode.within_bind
      rw [decodeItems_of_written tail]
      exact Decode.within_bind_ok _ rfl

end

theorem fromValue_value (filter : Filter) :
    Decode.fromValue decode filter.value = .ok filter.asRead :=
  decode_of_written (written_value filter) .value

theorem fromText_compact {filter : Filter} (steady : filter.json.Steady) :
    Decode.fromText decode filter.json.compact =
      if filter.json.depth ≤ 127 then .ok filter.asRead else .error .malformed :=
  Decode.fromText_compact steady (decode_of_written (written_json filter) .start)

theorem steady_of_fromText {filter : Filter}
    (read : Decode.fromText decode filter.json.compact = .ok filter) : filter.json.Steady := by
  simp only [Decode.fromText, Outline.ofText_compact] at read
  obtain ⟨found, decoded, closed⟩ := Decode.bind_eq_ok read
  cases Decode.closing_eq_ok closed
  exact steady_of_decode decoded

/-! ## What is lost -/

mutual

/-- No bound is the value null. -/
def NullFree : Filter → Prop
  | .eq _ _ | .oneOf _ _ => True
  | .range _ min max => min ≠ some .null ∧ max ≠ some .null
  | .all filters | .any filters => NullFreeAll filters

def NullFreeAll : List Filter → Prop
  | [] => True
  | filter :: filters => filter.NullFree ∧ NullFreeAll filters

end

theorem boundAsRead_eq_iff (bound : Option Value) :
    boundAsRead bound = bound ↔ bound ≠ some .null := by
  cases bound with
  | none => simp [boundAsRead]
  | some value => simp [boundAsRead, ← Value.isNull_iff]

mutual

theorem asRead_eq_iff (filter : Filter) : filter.asRead = filter ↔ filter.NullFree := by
  cases filter with
  | eq key value | oneOf key values => simp [asRead, NullFree]
  | range key min max => simp [asRead, NullFree, boundAsRead_eq_iff]
  | all filters | any filters => simp [asRead, NullFree, asReadAll_eq_iff filters]

theorem asReadAll_eq_iff (filters : List Filter) :
    asReadAll filters = filters ↔ NullFreeAll filters := by
  cases filters with
  | nil => simp [asReadAll, NullFreeAll]
  | cons filter filters =>
      simp [asReadAll, NullFreeAll, asRead_eq_iff filter, asReadAll_eq_iff filters]

end

theorem within_boundAsRead {bound : Option Value} {test : Double → Bool}
    (met : within bound test = true) : within (boundAsRead bound) test = true := by
  by_cases null : bound = some .null
  · subst null
    rfl
  · rwa [(boundAsRead_eq_iff bound).mpr null]

theorem inRange_boundAsRead {min max : Option Value} {value : Value}
    (inside : inRange min max value = true) :
    inRange (boundAsRead min) (boundAsRead max) value = true := by
  cases found : value.toDouble? with
  | none => simp [inRange, found] at inside
  | some number =>
      simp only [inRange, found, Bool.and_eq_true] at inside ⊢
      exact ⟨within_boundAsRead inside.1, within_boundAsRead inside.2⟩

section

variable {metadata : Metadata}

mutual

/-- A filter that is read back accepts what the written one accepts. -/
theorem matchesMetadata_asRead {filter : Filter}
    (accepted : filter.matchesMetadata metadata = true) :
    filter.asRead.matchesMetadata metadata = true := by
  cases filter with
  | eq key value | oneOf key values => exact accepted
  | range key min max =>
      cases found : metadata.get? key with
      | none => simp [matchesMetadata, found] at accepted
      | some value =>
          simp only [matchesMetadata, asRead, found, Option.any_some] at accepted ⊢
          exact inRange_boundAsRead accepted
  | all filters => exact allMatch_asReadAll accepted
  | any filters => exact anyMatches_asReadAll accepted

theorem allMatch_asReadAll {filters : List Filter} (accepted : allMatch metadata filters = true) :
    allMatch metadata (asReadAll filters) = true := by
  cases filters with
  | nil => rfl
  | cons filter filters =>
      simp only [allMatch, asReadAll, Bool.and_eq_true] at accepted ⊢
      exact ⟨matchesMetadata_asRead accepted.1, allMatch_asReadAll accepted.2⟩

theorem anyMatches_asReadAll {filters : List Filter}
    (accepted : anyMatches metadata filters = true) :
    anyMatches metadata (asReadAll filters) = true := by
  cases filters with
  | nil => cases accepted
  | cons filter filters =>
      simp only [anyMatches, asReadAll, Bool.or_eq_true] at accepted ⊢
      exact accepted.imp matchesMetadata_asRead anyMatches_asReadAll

end

end

/-- Through a value, a filter is read back as it was written exactly if none of its bounds is the
value null.  Through a text, also every number in it must be read back and it must not nest too
deep.  If its numbers are read back, then what it accepted is accepted by the filter that is read,
and the text holds its value. -/
theorem readBack (filter : Filter) :
    (Decode.fromValue decode filter.value = .ok filter ↔ filter.NullFree) ∧
    (Decode.fromText decode filter.json.compact = .ok filter ↔
      filter.NullFree ∧ filter.json.Steady ∧ filter.json.depth ≤ 127) ∧
    (filter.json.Steady → Value.parse? filter.json.compact = some filter.value) ∧
    ∃ read, Decode.fromValue decode filter.value = .ok read ∧
      (filter.json.Steady → filter.json.depth ≤ 127 →
        Decode.fromText decode filter.json.compact = .ok read) ∧
      ∀ metadata, filter.matchesMetadata metadata = true →
        read.matchesMetadata metadata = true := by
  refine ⟨?_, ?_, parse?_compact_json, filter.asRead, fromValue_value filter, ?_, ?_⟩
  · rw [fromValue_value, ← asRead_eq_iff, Except.ok.injEq]
  · rw [← asRead_eq_iff]
    constructor
    · intro read
      have steady := steady_of_fromText read
      rw [fromText_compact steady] at read
      split at read
      · next shallow => exact ⟨Except.ok.inj read, steady, shallow⟩
      · cases read
    · rintro ⟨same, steady, shallow⟩
      rw [fromText_compact steady, if_pos shallow, same]
  · intro steady shallow
    rw [fromText_compact steady, if_pos shallow]
  · intro metadata
    exact matchesMetadata_asRead

theorem readBack_nested :
    let half : Number := .real ⟨false, 0x10000000000000, -53, by decide⟩
    let filter : Filter := .all [.eq "tag" .null,
      .any [.range "score" (some (.number half)) none, .oneOf "group" [.string "a", .ofNat 7]]]
    Decode.fromValue decode filter.value = .ok filter ∧
      Decode.fromText decode filter.json.compact = .ok filter := by
  intro half filter
  have bound : Value.number half ≠ .null := by
    intro same
    cases Value.isNull_iff.mpr same
  have nullFree : filter.NullFree := by
    simp [filter, NullFree, NullFreeAll, bound]
  have steady : filter.json.Steady := by
    decide +kernel
  obtain ⟨fromValue, fromText, -⟩ := readBack filter
  exact ⟨fromValue.mpr nullFree, fromText.mpr ⟨nullFree, steady, by decide⟩⟩

/-- A bound that is null is never met; it is read back as a missing one, which always is. -/
theorem nullBound_lost :
    let written : Filter := .range "score" (some .null) none
    let read : Filter := .range "score" none none
    let metadata : Metadata := .singleton "score" (.ofNat 5)
    Decode.fromText decode written.json.compact = .ok read ∧
      Decode.fromValue decode written.value = .ok read ∧
      written.matchesMetadata metadata = false ∧ read.matchesMetadata metadata = true := by
  intro written read metadata
  refine ⟨?_, fromValue_value written, rfl, rfl⟩
  exact fromText_compact (by decide)

/-- Bounds that are reals can be read as their neighbours, which lets other numbers in. -/
theorem realBounds_lost :
    let bound : Value := .number (.real ⟨false, 0x1fffffffffffff, 0, by decide⟩)
    let other : Value := .number (.real ⟨false, 0x1ffffffffffffe, 0, by decide⟩)
    let written : Filter := .range "n" (some bound) (some bound)
    let read : Filter := .range "n" (some other) (some other)
    let metadata : Metadata := .singleton "n" (.ofNat 0x1fffffffffffff)
    Decode.fromText decode written.json.compact = .ok read ∧
      Decode.fromValue decode written.value = .ok written ∧
      written.matchesMetadata metadata = true ∧ read.matchesMetadata metadata = false := by
  intro bound other written read metadata
  have seen : Outline.ofWritten written.json = .ofJson read.json := by
    simp [written, read, bound, other, json, boundJson, Value.number, Outline.ofWritten,
      Outline.ofWrittenFields, Outline.ofWrittenNumber, Outline.ofJson, Outline.ofFields,
      Number.reread?_real_greatest]
  refine ⟨?_, fromValue_value written, ?_, ?_⟩
  · exact Decode.fromText_compact_of_shown seen (decode_of_written (written_json read) .start)
  · decide +kernel
  · decide +kernel

end Filter

end Corpus
