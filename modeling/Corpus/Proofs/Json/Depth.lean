import Corpus.Json.Decode
import Corpus.Proofs.Json.Shown

/-!
# How deep values nest

A text may open only so many containers inside one another.  A value that is read from its outline
is read in full if its depth is admitted, and is a malformed text otherwise; nothing else that
stands in the outline of a value can keep it from being read.
-/

namespace Corpus

namespace Json

mutual

/-- How many containers of a value are open at once, at most. -/
def depth : Json → Nat
  | .null | .bool _ | .number _ | .string _ => 0
  | .array items => depthItems items + 1
  | .object fields => depthFields fields + 1

def depthItems : List Json → Nat
  | [] => 0
  | item :: items => max item.depth (depthItems items)

def depthFields : List (String × Json) → Nat
  | [] => 0
  | (_, value) :: fields => max value.depth (depthFields fields)

end

end Json

namespace Source

def admits : Source → Nat → Bool
  | .value, _ => true
  | .text levels, depth => decide (depth ≤ levels)

theorem admits_zero (source : Source) : source.admits 0 = true := by
  cases source <;> simp [admits]

theorem admits_max (source : Source) (left right : Nat) :
    source.admits (max left right) = (source.admits left && source.admits right) := by
  cases source with
  | value => rfl
  | text levels => simp only [admits, Nat.max_le, Bool.decide_and]

theorem admits_enter {source inner : Source} (entered : source.enter? = some inner) (depth : Nat) :
    inner.admits depth = source.admits (depth + 1) := by
  cases source with
  | value =>
      cases entered
      rfl
  | text levels =>
      cases levels with
      | zero => cases entered
      | succ levels =>
          cases entered
          simp [admits]

theorem not_admits_of_closed {source : Source} (closed : source.enter? = none) (depth : Nat) :
    source.admits (depth + 1) = false := by
  cases source with
  | value => cases closed
  | text levels =>
      cases levels with
      | zero => simp [admits]
      | succ levels => cases closed

end Source

namespace Outline

mutual

/-- A source shows of a value what a known value shows, if it admits the depth. -/
theorem value?_eq_ite (source : Source) (json : Json) :
    (ofJson json).value? source =
      if source.admits json.depth then (ofJson json).value? .value else none := by
  cases json with
  | null => simp [ofJson, value?, Json.depth, Source.admits_zero]
  | bool value => simp [ofJson, value?, Json.depth, Source.admits_zero]
  | number value => simp [ofJson, value?, Json.depth, Source.admits_zero]
  | string text => simp [ofJson, value?, Json.depth, Source.admits_zero]
  | array items =>
      simp only [ofJson, value?, Json.depth]
      cases entered : source.enter? with
      | none => simp [Source.not_admits_of_closed entered]
      | some inner =>
          simp only [← Source.admits_enter entered, items?_eq_ite inner items, Source.enter?]
          cases inner.admits (Json.depthItems items) <;> rfl
  | object fields =>
      simp only [ofJson, value?, Json.depth]
      cases entered : source.enter? with
      | none => simp [Source.not_admits_of_closed entered]
      | some inner =>
          simp only [← Source.admits_enter entered, fields?_eq_ite inner fields, Source.enter?]
          cases inner.admits (Json.depthFields fields) <;> rfl

theorem items?_eq_ite (source : Source) (items : List Json) :
    items? source (ofItems items) =
      if source.admits (Json.depthItems items) then items? .value (ofItems items) else none := by
  cases items with
  | nil => simp [ofItems, items?, Json.depthItems, Source.admits_zero]
  | cons item items =>
      simp only [ofItems, items?, Json.depthItems, Source.admits_max,
        value?_eq_ite source item, items?_eq_ite source items]
      cases source.admits item.depth with
      | false => rfl
      | true =>
          cases source.admits (Json.depthItems items) with
          | false => simp
          | true => rfl

theorem fields?_eq_ite (source : Source) (fields : List (String × Json)) (map : KeyMap Value) :
    fields? source map (ofFields fields) =
      if source.admits (Json.depthFields fields) then fields? .value map (ofFields fields)
      else none := by
  cases fields with
  | nil => simp [ofFields, fields?, Json.depthFields, Source.admits_zero]
  | cons field fields =>
      obtain ⟨key, value⟩ := field
      simp only [ofFields, fields?, Json.depthFields, Source.admits_max,
        value?_eq_ite source value, fields?_eq_ite source fields]
      cases source.admits value.depth with
      | false => rfl
      | true =>
          cases source.admits (Json.depthFields fields) with
          | false => simp
          | true => rfl

end

end Outline

namespace Decode

variable {α β : Type}

/-- What is read of a value whose containers nest so deep: all of it, or that the text is
malformed. -/
def within (source : Source) (depth : Nat) (value : α) : Decoded α :=
  if source.admits depth then .ok value else .error .malformed

theorem within_zero (source : Source) (value : α) : within source 0 value = .ok value :=
  if_pos source.admits_zero

theorem within_start (depth : Nat) (value : α) :
    within .start depth value = if depth ≤ 127 then .ok value else .error .malformed := by
  simp only [within, Source.start, Source.admits, decide_eq_true_eq]

/-- What is read one part after the other is as deep as the deepest part. -/
theorem within_bind {next : α → Decoded β} {source : Source} {value : α} {result : β} (depth : Nat)
    {later : Nat} (continued : next value = within source later result) :
    within source depth value >>= next = within source (max depth later) result := by
  unfold within at continued ⊢
  rw [Source.admits_max]
  cases source.admits depth with
  | false => rfl
  | true => exact continued

theorem within_bind_ok {next : α → Decoded β} {source : Source} {value : α} {result : β}
    (depth : Nat) (continued : next value = .ok result) :
    within source depth value >>= next = within source depth result := by
  unfold within
  cases source.admits depth with
  | false => rfl
  | true => exact continued

theorem within_map (source : Source) (depth : Nat) (value : α) (change : α → β) :
    (within source depth value).map change = within source depth (change value) := by
  unfold within
  cases source.admits depth <;> rfl

theorem enter_bind {next : Source → Decoded α} {depth : Nat} {value : α} (source : Source)
    (inside : ∀ inner, next inner = within inner depth value) :
    enter source >>= next = within source (depth + 1) value := by
  unfold enter within
  cases entered : source.enter? with
  | none =>
      rw [Source.not_admits_of_closed entered]
      rfl
  | some inner =>
      rw [← Source.admits_enter entered]
      exact inside inner

theorem bind_eq_ok {first : Decoded α} {next : α → Decoded β} {result : β}
    (read : first >>= next = .ok result) : ∃ part, first = .ok part ∧ next part = .ok result := by
  cases first with
  | error fault => cases read
  | ok part => exact ⟨part, rfl, read⟩

theorem map_eq_ok {first : Decoded α} {change : α → β} {result : β}
    (read : first.map change = .ok result) : ∃ part, first = .ok part ∧ change part = result := by
  cases first with
  | error fault => cases read
  | ok part => exact ⟨part, rfl, Except.ok.inj read⟩

theorem closing_eq_ok {closed : Bool} {value result : α}
    (ended : closing closed value = .ok result) : result = value := by
  unfold closing at ended
  split at ended
  · cases ended
    rfl
  · cases ended

theorem any_ofJson (source : Source) (value : Value) :
    any source (.ofJson value.json) = within source value.json.depth value := by
  unfold any within
  rw [Outline.value?_eq_ite, Outline.value?_ofJson value.json value.sorted]
  cases source.admits value.json.depth <;> rfl

section

variable {write : α → Json}

theorem mapM_ofItems {decode : Outline → Decoded α} {source : Source} {values : List α}
    (read : ∀ value ∈ values, decode (.ofJson (write value)) =
      within source (write value).depth value) :
    (Outline.ofItems (values.map write)).mapM decode =
      within source (Json.depthItems (values.map write)) values := by
  induction values with
  | nil => exact (within_zero source []).symm
  | cons value values induction =>
      rw [List.map_cons, Outline.ofItems, List.mapM_cons, read value (List.mem_cons_self ..),
        Json.depthItems]
      apply within_bind
      rw [induction fun other member => read other (List.mem_cons_of_mem _ member)]
      exact within_map source _ values (value :: ·)

theorem sequence_ofJson {decode : Source → Outline → Decoded α} (source : Source)
    (values : List α)
    (read : ∀ inner, ∀ value ∈ values, decode inner (.ofJson (write value)) =
      within inner (write value).depth value) :
    sequence decode source (.ofJson (.array (values.map write))) =
      within source (Json.array (values.map write)).depth values := by
  apply enter_bind
  intro inner
  rw [mapM_ofItems (read inner)]
  exact within_bind_ok _ rfl

theorem sequence_array {write : α → Value} {decode : Source → Outline → Decoded α}
    (source : Source) (values : List α)
    (read : ∀ inner, ∀ value ∈ values, decode inner (.ofJson (write value).json) =
      within inner (write value).json.depth value) :
    sequence decode source (.ofJson (Value.array (values.map write)).json) =
      within source (Value.array (values.map write)).json.depth values := by
  have items : (Value.array (values.map write)).json =
      .array (values.map fun value => (write value).json) :=
    congrArg Json.array (List.map_map ..)
  rw [items]
  exact sequence_ofJson source values read

theorem entries_ofFields {decode : Outline → Decoded α} {source : Source}
    (read : ∀ value, decode (.ofJson (write value)) = within source (write value).depth value)
    {before after : KeyMap α} {fields : List (String × α)}
    (behind : after.entries = before.entries ++ fields) :
    entries decode before (Outline.ofFields (fields.map fun entry => (entry.1, write entry.2))) =
      within source (Json.depthFields (fields.map fun entry => (entry.1, write entry.2)))
        after := by
  induction fields generalizing before with
  | nil =>
      have same : before = after := KeyMap.ext_entries (by rw [behind, List.append_nil])
      subst same
      exact (within_zero source before).symm
  | cons field fields induction =>
      obtain ⟨key, value⟩ := field
      have ascending := after.sorted
      rw [behind, List.pairwise_append] at ascending
      have atEnd : (before.insert key value).entries = before.entries ++ [(key, value)] :=
        KeyMap.insertEntry_of_below fun entry member =>
          ascending.2.2 entry member _ (List.mem_cons_self ..)
      simp only [List.map_cons, Outline.ofFields, entries, read, Json.depthFields]
      apply within_bind
      apply induction
      rw [behind, atEnd, List.append_assoc]
      rfl

end

theorem sequence_any_ofJson (source : Source) (values : List Value) :
    sequence any source (.ofJson (.array (values.map Value.json))) =
      within source (Json.array (values.map Value.json)).depth values :=
  sequence_ofJson source values fun inner value _ => any_ofJson inner value

theorem map_any_ofJson (source : Source) (map : KeyMap Value) :
    Decode.map any source (.ofJson (Value.object map).json) =
      within source (Value.object map).json.depth map := by
  apply enter_bind
  intro inner
  have added : map.entries = KeyMap.empty.entries ++ map.entries := rfl
  exact (congrArg (· >>= closing true) (entries_ofFields (any_ofJson inner) added)).trans
    (within_bind_ok _ rfl)

/-! ## Records -/

section

variable {σ : Type} {shape : Shape σ} {record : σ}

/-- A record is filled from the field that comes first, and then from the others. -/
theorem named_cons_eq {source : Source} {key : String} {outline : Outline}
    {rest : List (Option String × Outline)} (field : Field σ)
    (found : (shape.fields.find? fun field => field.name == key) = some field)
    (unread : field.isRead record = false) :
    named shape source record ((some key, outline) :: rest) =
      field.read source outline record >>= fun filled => named shape source filled rest := by
  simp only [named, found, unread]
  rfl

theorem named_cons {source : Source} {key : String} {outline : Outline}
    {rest : List (Option String × Outline)} {filled result : σ} {depth later : Nat}
    (field : Field σ)
    (found : (shape.fields.find? fun field => field.name == key) = some field)
    (unread : field.isRead record = false)
    (read : field.read source outline record = within source depth filled)
    (continued : named shape source filled rest = within source later result) :
    named shape source record ((some key, outline) :: rest) =
      within source (max depth later) result := by
  rw [named_cons_eq field found unread, read]
  exact within_bind depth continued

/-- A field that may be left out is read where it is written; where it is not, nothing changes. -/
theorem named_option {source : Source} {key : String} {write : α → Json} {value : Option α}
    {fields : List (String × Json)} {result : σ} (field : Field σ) (filled : Option α → σ)
    (found : (shape.fields.find? fun field => field.name == key) = some field)
    (unread : field.isRead record = false) (blank : filled none = record)
    (read : ∀ given ∈ value, field.read source (.ofJson (write given)) record =
      within source (write given).depth (filled (some given)))
    (continued : named shape source (filled value) (Outline.ofFields fields) =
      within source (Json.depthFields fields) result) :
    let all := (value.map fun value => (key, write value)).toList ++ fields
    named shape source record (Outline.ofFields all) =
      within source (Json.depthFields all) result := by
  cases value with
  | none => rwa [blank] at continued
  | some value => exact named_cons field found unread (read value rfl) continued

theorem recordOfFields_eq_within {fields : List (Option String × Outline)} {depth : Nat}
    {result : σ} (source : Source)
    (inside : ∀ inner, named shape inner record fields = within inner depth result) :
    recordOfFields shape source record fields true = within source (depth + 1) result := by
  apply enter_bind
  intro inner
  rw [inside]
  exact within_bind_ok depth rfl

theorem recordOfItems_eq_within {items : List Outline} {depth : Nat} {result : σ} (source : Source)
    (inside : ∀ inner, positional shape inner true record shape.fields 0 items =
      within inner depth (result, [])) :
    recordOfItems shape source record items true = within source (depth + 1) result := by
  apply enter_bind
  intro inner
  rw [inside]
  exact within_bind_ok depth rfl

end

/-! ## Alternatives -/

/-- An object with one field is read as the variant that the key names. -/
theorem choice_ofJson {known : List String} {bare : String → Decoded α}
    {full : Source → String → Outline → Decoded α} {name : String} {content : Json} {result : α}
    (listed : known.contains name = true) (source : Source)
    (read : ∀ inner, full inner name (.ofJson content) = within inner content.depth result) :
    choice known bare full source (.ofJson (.object [(name, content)])) =
      within source (Json.object [(name, content)]).depth result := by
  have depth : (Json.object [(name, content)]).depth = content.depth + 1 := by
    simp [Json.depth, Json.depthFields]
  have single : singleKey source [] = .ok () := by
    cases source <;> rfl
  rw [depth]
  simp only [Outline.ofJson, Outline.ofFields, choice, single, variant, listed, if_true]
  apply enter_bind
  intro inner
  change full inner name (.ofJson content) >>= afterContent [] true = _
  rw [read]
  exact within_bind_ok _ rfl

end Decode

end Corpus
