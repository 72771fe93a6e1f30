import Corpus.Filter.Json
import Corpus.Proofs.Json.Reread

/-!
# Filters that are read from their own text

Whatever a reader makes of the text of a filter, it makes that filter of it only if every number in
the filter is read back.  This goes through the reading step by step: each value of the filter is
read from the place where it was written.
-/

namespace Corpus

namespace Decode

theorem value?_of_any {source : Source} {outline : Outline} {value : Value}
    (read : any source outline = .ok value) : outline.value? source = some value := by
  unfold any at read
  split at read
  · next shown =>
    cases read
    exact shown
  · cases read

theorem steady_of_any {source : Source} {json : Json} {value : Value}
    (read : any source (Outline.ofWritten json) = .ok value) (same : value.json = json) :
    json.Steady :=
  Outline.steady_of_value? (value?_of_any read) same

theorem nullable_eq_some {α : Type} {decode : Outline → Decoded α} {outline : Outline} {value : α}
    (read : nullable decode outline = .ok (some value)) : decode outline = .ok value := by
  unfold nullable at read
  split at read
  · cases read
  · obtain ⟨found, decoded, same⟩ := map_eq_ok read
    rwa [Option.some.inj same] at decoded

theorem steady_of_mapM_any {source : Source} {items : List Json} {values : List Value}
    (read : (Outline.ofWrittenItems items).mapM (any source) = .ok values)
    (same : values.map Value.json = items) :
    ∀ number ∈ Json.numbersItems items, number.ReadsBack := by
  induction items generalizing values with
  | nil => exact List.forall_mem_nil _
  | cons item items induction =>
      rw [Outline.ofWrittenItems, List.mapM_cons] at read
      obtain ⟨value, readItem, rest⟩ := bind_eq_ok read
      obtain ⟨others, readItems, made⟩ := bind_eq_ok rest
      cases made
      obtain ⟨sameItem, sameItems⟩ := List.cons.inj same
      exact List.forall_mem_append.mpr
        ⟨steady_of_any readItem sameItem, induction readItems sameItems⟩

theorem steady_of_sequence_any {source : Source} {values : List Value}
    (read : sequence any source
      (Outline.ofWritten (.array (values.map Value.json))) = .ok values) :
    (Json.array (values.map Value.json)).Steady := by
  obtain ⟨inner, -, read⟩ := bind_eq_ok read
  obtain ⟨found, items, closed⟩ := bind_eq_ok read
  cases closing_eq_ok closed
  exact steady_of_mapM_any items rfl

end Decode

namespace Filter

theorem decodeContent_leaf {name : String} (leaf : ¬(name = "All" ∨ name = "Any"))
    (source : Source) (outline : Outline) :
    decodeContent source name outline = decodeLeaf source name outline := by
  cases outline <;> simp [decodeContent, leaf]

theorem decodeContent_of_decode {source : Source} {name : String} {content : Outline}
    {filter : Filter}
    (read : decode source (.object [(some name, content)] true) = .ok filter) :
    ∃ inner, decodeContent inner name content = .ok filter := by
  rw [decode] at read
  obtain ⟨-, -, read⟩ := Decode.bind_eq_ok read
  obtain ⟨inner, -, read⟩ := Decode.bind_eq_ok read
  obtain ⟨-, -, read⟩ := Decode.bind_eq_ok read
  obtain ⟨found, content, closed⟩ := Decode.bind_eq_ok read
  cases Decode.closing_eq_ok closed
  exact ⟨inner, content⟩

section

variable {α : Type} {decode : Source → Outline → Decode.Decoded α}

theorem positional_pair_eq (name key : String) (source : Source) (outline : Outline) :
    Decode.positional (pairShape name decode) source true ⟨none, none⟩
      (pairShape name decode).fields 0 [.string key, outline] =
        ((decode source outline >>= fun value =>
          pure (⟨some key, some value⟩ : PartialPair α)) >>= fun pair => pure (pair, [])) := rfl

theorem operand_of_decodePair {source : Source} {name key : String} {outline : Outline}
    {pair : String × α}
    (read : decodePair name decode source (.array [.string key, outline] true) = .ok pair) :
    ∃ inner, decode inner outline = .ok pair.2 := by
  obtain ⟨parts, items, named⟩ := Decode.bind_eq_ok read
  have record : Decode.recordOfItems (pairShape name decode) source ⟨none, none⟩
      [.string key, outline] true = .ok parts := by
    cases source <;> exact items
  obtain ⟨inner, -, record⟩ := Decode.bind_eq_ok record
  obtain ⟨filled, places, ended⟩ := Decode.bind_eq_ok record
  rw [positional_pair_eq] at places
  obtain ⟨pairs, operand, rest⟩ := Decode.bind_eq_ok places
  obtain ⟨value, readValue, made⟩ := Decode.bind_eq_ok operand
  cases made
  cases rest
  cases ended
  cases named
  exact ⟨inner, readValue⟩

end

theorem bounds_of_decodeRange {source : Source} {key other : String} {minimum maximum : Outline}
    {min max : Option Value}
    (read : decodeRange source (.object [(some "key", .string key), (some "min", minimum),
      (some "max", maximum)] true) = .ok (.range other min max)) :
    ∃ inner, Decode.nullable (Decode.any inner) minimum = .ok min ∧
      Decode.nullable (Decode.any inner) maximum = .ok max := by
  obtain ⟨range, parts, named⟩ := Decode.bind_eq_ok read
  have record : Decode.recordOfFields rangeShape source ⟨none, none, none⟩
      [(some "key", .string key), (some "min", minimum), (some "max", maximum)] true =
        .ok range := by
    cases source <;> exact parts
  obtain ⟨inner, -, record⟩ := Decode.bind_eq_ok record
  obtain ⟨filled, fields, ended⟩ := Decode.bind_eq_ok record
  rw [Decode.named_cons_eq rangeShape.fields[0] rfl rfl] at fields
  obtain ⟨keyed, readKey, fields⟩ := Decode.bind_eq_ok fields
  cases readKey
  rw [Decode.named_cons_eq rangeShape.fields[1] rfl rfl] at fields
  obtain ⟨low, readLow, fields⟩ := Decode.bind_eq_ok fields
  obtain ⟨least, readMin, made⟩ := Decode.bind_eq_ok readLow
  cases made
  rw [Decode.named_cons_eq rangeShape.fields[2] rfl rfl] at fields
  obtain ⟨high, readHigh, fields⟩ := Decode.bind_eq_ok fields
  obtain ⟨greatest, readMax, made⟩ := Decode.bind_eq_ok readHigh
  cases made
  cases fields
  cases ended
  cases named
  exact ⟨inner, readMin, readMax⟩

theorem filters_of_decodeContent {source : Source} {name : String} {items : List Outline}
    {filter : Filter} (group : name = "All" ∨ name = "Any")
    (read : decodeContent source name (.array items true) = .ok filter) :
    ∃ inner filters, decodeItems inner items = .ok filters ∧
      filter = if name = "All" then .all filters else .any filters := by
  simp only [decodeContent, Bool.or_eq_true, decide_eq_true_eq, group, if_true] at read
  obtain ⟨inner, -, read⟩ := Decode.bind_eq_ok read
  obtain ⟨filters, decoded, closed⟩ := Decode.bind_eq_ok read
  exact ⟨inner, filters, decoded, Decode.closing_eq_ok closed⟩

/-! ## The numbers of a filter -/

theorem steady_tagged {name : String} {content : Json} (steady : content.Steady) :
    (Json.object [(name, content)]).Steady := by
  simpa [Json.Steady, Json.numbers, Json.numbersFields] using steady

theorem steady_pair {key : String} {operand : Json} (steady : operand.Steady) :
    (Json.array [.string key, operand]).Steady := by
  simpa [Json.Steady, Json.numbers, Json.numbersItems] using steady

theorem steady_bounds {key : String} {minimum maximum : Json} (minSteady : minimum.Steady)
    (maxSteady : maximum.Steady) :
    (Json.object [("key", .string key), ("min", minimum), ("max", maximum)]).Steady := by
  have both := List.forall_mem_append.mpr ⟨minSteady, maxSteady⟩
  simpa [Json.Steady, Json.numbers, Json.numbersFields] using both

theorem steady_boundJson {source : Source} {bound : Option Value}
    (read : Decode.nullable (Decode.any source) (Outline.ofWritten (boundJson bound)) =
      .ok bound) : (boundJson bound).Steady := by
  cases bound with
  | none => exact List.forall_mem_nil _
  | some value => exact Decode.steady_of_any (Decode.nullable_eq_some read) rfl

mutual

/-- A filter that is read from its own text has only numbers that are read back. -/
theorem steady_of_decode {filter : Filter} {source : Source}
    (read : decode source (Outline.ofWritten filter.json) = .ok filter) : filter.json.Steady := by
  cases filter with
  | eq key value =>
      obtain ⟨inner, content⟩ := decodeContent_of_decode read
      rw [decodeContent_leaf (by decide)] at content
      obtain ⟨pair, readPair, same⟩ := Decode.map_eq_ok content
      cases same
      obtain ⟨place, operand⟩ := operand_of_decodePair readPair
      exact steady_tagged (steady_pair (Decode.steady_of_any operand rfl))
  | oneOf key values =>
      obtain ⟨inner, content⟩ := decodeContent_of_decode read
      rw [decodeContent_leaf (by decide)] at content
      obtain ⟨pair, readPair, same⟩ := Decode.map_eq_ok content
      cases same
      obtain ⟨place, operand⟩ := operand_of_decodePair readPair
      exact steady_tagged (steady_pair (Decode.steady_of_sequence_any operand))
  | range key min max =>
      obtain ⟨inner, content⟩ := decodeContent_of_decode read
      rw [decodeContent_leaf (by decide)] at content
      obtain ⟨place, readMin, readMax⟩ := bounds_of_decodeRange content
      exact steady_tagged (steady_bounds (steady_boundJson readMin) (steady_boundJson readMax))
  | all filters =>
      obtain ⟨inner, content⟩ := decodeContent_of_decode read
      obtain ⟨place, found, items, same⟩ := filters_of_decodeContent (.inl rfl) content
      cases same
      exact steady_tagged (steady_of_decodeItems items)
  | any filters =>
      obtain ⟨inner, content⟩ := decodeContent_of_decode read
      obtain ⟨place, found, items, same⟩ := filters_of_decodeContent (.inr rfl) content
      cases same
      exact steady_tagged (steady_of_decodeItems items)

theorem steady_of_decodeItems {filters : List Filter} {source : Source}
    (read : decodeItems source (Outline.ofWrittenItems (jsonItems filters)) = .ok filters) :
    ∀ number ∈ Json.numbersItems (jsonItems filters), number.ReadsBack := by
  cases filters with
  | nil => exact List.forall_mem_nil _
  | cons filter filters =>
      rw [jsonItems, Outline.ofWrittenItems, decodeItems] at read
      obtain ⟨first, head, rest⟩ := Decode.bind_eq_ok read
      obtain ⟨others, tail, made⟩ := Decode.bind_eq_ok rest
      cases made
      exact List.forall_mem_append.mpr ⟨steady_of_decode head, steady_of_decodeItems tail⟩

end

end Filter

end Corpus
